import Browserd.MCP.ClientSteps

/-!
# Reads of the POSIX transport and the `poll` before them

The connection that this iteration's `poll` reported ready is recorded beside the transport, and so
is what the main thread and `accept` did to the client since the iteration's first snapshot, and a
`recv` that a signal interrupted: by them the next `recv` and the section after it are judged.
-/

namespace Browserd.Posix

open Transition

/-- `recv` may also be interrupted; `.call (.recv none)` is the end of the stream or another
error. -/
inductive ReadInput where
  | call (input : IPCInput)
  | interruptedRecv

def ReadInput.toInput : ReadInput → IPCInput
  | .call input => input
  | .interruptedRecv => .recv none

/-- The transport and the events of the iteration: the connection whose descriptor `poll` reported
ready; whether the main thread has closed the client since the first snapshot, and `accept` brought
another one after that; whether the last `recv` was interrupted. And whether a client was ever
dropped after such a `recv`. -/
structure PolledTransport where
  transport : MCPIPCTransport
  polled : Option Nat
  closed : Bool
  replaced : Bool
  interrupted : Bool
  droppedInterrupted : Bool

namespace MCPIPCTransport

/-- The connection that `poll` reports ready with this result. -/
def readyConnection (ready : Option (Bool × Bool)) (s : MCPIPCTransport) : Option Nat :=
  match ready, s.ipcThread with
  | some (_, true), .poll _ (some clientSnapshot) => s.connectionAt clientSnapshot
  | _, _ => none

/-- The IPC thread takes the first snapshot of an iteration. -/
def takesSnapshot (s : MCPIPCTransport) : IPCInput → Bool
  | .runLoop =>
      match s.ipcThread with
      | .snapshot => true
      | _ => false
  | _ => false

/-- The IPC thread is about to close the client it has read from. -/
def dropsClient (s : MCPIPCTransport) : Bool :=
  match s.ipcThread with
  | .dropClient clientSnapshot => s.activeClientFd = some clientSnapshot
  | _ => false

/-- The IPC thread has left its last critical section before `recv`. -/
def atRecv (s : MCPIPCTransport) : Bool :=
  match s.ipcThread with
  | .recv _ _ _ => true
  | _ => false

end MCPIPCTransport

namespace PolledTransport

def start (listenerFd : Nat) (path : String) : PolledTransport :=
  ⟨.start listenerFd path, none, false, false, false, false⟩

/-- What is recorded of a step that leads to `t`. -/
def record (s : PolledTransport) (input : ReadInput) (t : MCPIPCTransport) : PolledTransport where
  transport := t
  polled :=
    match input with
    | .call (.poll ready) => s.transport.readyConnection ready
    | _ => s.polled
  closed :=
    !s.transport.takesSnapshot input.toInput &&
      (s.closed || s.transport.closesClient input.toInput)
  replaced :=
    !s.transport.takesSnapshot input.toInput && !s.transport.closesClient input.toInput &&
      (s.replaced || s.closed && s.transport.activatesClient input.toInput)
  interrupted :=
    match input with
    | .interruptedRecv => true
    | .call (.recv _) => false
    | _ => s.interrupted
  droppedInterrupted :=
    match input with
    | .call .runLoop => s.droppedInterrupted || s.interrupted && s.transport.dropsClient
    | _ => s.droppedInterrupted

def step (json : JSONCodec) (s : PolledTransport) (input : ReadInput) : Option PolledTransport :=
  (s.transport.step json input.toInput).map (s.record input)

/-- `recv` is called on the descriptor of the active client, which this iteration's `poll` has
reported ready, and no client was dropped because its `recv` was interrupted. -/
structure ReadsPolled (s : PolledTransport) : Prop where
  ready {fd ready : Nat} {generation : UInt64} :
    s.transport.ipcThread = .recv fd generation ready →
      s.transport.activeClientFd = some fd ∧
        ∃ c, s.transport.fds fd = some (.connection c) ∧ s.polled = some c
  dropped : s.droppedInterrupted = false

/-- In an iteration whose `poll` has reported the client ready, the main thread has not closed that
client with another one accepted after that when the second snapshot is taken; it closes no client
between that snapshot and `recv`; and after an interrupted `recv` it has closed the client before
the section that follows. -/
def Undisturbed (s : PolledTransport) : ReadInput → Prop
  | .call .runLoop =>
      match s.transport.ipcThread with
      | .resnapshot (some _) => s.replaced = false
      | .dropClient _ => s.interrupted = true → s.closed = true
      | _ => True
  | .call input => s.transport.closesClient input = true → s.transport.atRecv = false
  | .interruptedRecv => True

end PolledTransport

namespace MCPIPCTransport

variable {json : JSONCodec} {s t : MCPIPCTransport}

theorem atRecv_eq_false :
    s.atRecv = false ↔ ∀ fd generation ready, s.ipcThread ≠ .recv fd generation ready := by
  unfold atRecv
  split <;> simp_all

/-- Only the second snapshot leads to `recv`. -/
theorem runLoop_recv {fd ready : Nat} {generation : UInt64} (h : s.runLoop json = some t)
    (hthread : t.ipcThread = .recv fd generation ready) :
    s.ipcThread = .resnapshot (some ready) ∧ s.activeClientFd = some fd ∧ t.fds = s.fds ∧
      t.activeClientFd = s.activeClientFd := by
  cases IPCStep.of_runLoop h with
  | moves input point moves =>
      cases moves with
      | reads fd' ready' point free active =>
          cases hthread
          exact ⟨point, active, rfl, rfl⟩
      | _ => cases hthread
  | activate fd' ready' point free =>
      unfold activate at hthread
      split at hthread <;> cases hthread
  | dispatchNext generation' point =>
      unfold dispatchNext at hthread
      split at hthread
      · cases hthread
      · simp_all [dispatchLine]
  | _ => cases hthread

theorem runLoop_resnapshot {fd ready : Nat} (h : s.runLoop json = some t)
    (hthread : s.ipcThread = .resnapshot (some ready)) (hactive : s.activeClientFd = some fd) :
    t = s.goto (.recv fd s.activeClientGeneration ready) := by
  simp only [runLoop, hthread, hactive] at h
  exact (locked_eq_some.mp h).2.symm

theorem poll_recv {ready : Option (Bool × Bool)} (h : s.step json (.poll ready) = some t) :
    t.atRecv = false := by
  cases IPCStep.of_step h with
  | moves input point moves => cases moves <;> rfl

theorem accept_recv {acceptedFd : Option Nat} (h : s.step json (.accept acceptedFd) = some t) :
    t.atRecv = false := by
  cases IPCStep.of_step h with
  | moves input point moves =>
      cases moves
      rfl
  | accepts listener fd ready point listening unused => rfl

theorem recv_recv {chunk : Option Chunk} (h : s.step json (.recv chunk) = some t) :
    t.atRecv = false := by
  cases IPCStep.of_step h with
  | moves input point moves =>
      cases moves
      rfl
  | receives fd generation ready connection chunk point client => rfl

end MCPIPCTransport

namespace PolledTransport

open MCPIPCTransport

variable {json : JSONCodec} {s s' : PolledTransport} {t : MCPIPCTransport}

/-- The client of the first snapshot is still there unless the main thread has closed it. -/
structure Snapshotted (s : PolledTransport) (fd : Nat) : Prop where
  kept : s.closed = false → s.transport.activeClientFd = some fd
  gone : s.closed = true →
    s.transport.activeClientFd = none ∧ s.transport.connectionAt fd = none

/-- `poll` has reported the client of the first snapshot ready. Since then the main thread may have
closed it, and another one may have come, which is not the one that was reported. -/
structure Reported (s : PolledTransport) (fd : Nat) : Prop where
  kept : s.closed = false → s.transport.activeClientFd = some fd ∧
    ∃ c, s.transport.connectionAt fd = some c ∧ s.polled = some c
  gone : s.closed = true → s.replaced = false → s.transport.activeClientFd = none
  other : s.replaced = true → s.closed = true ∧ ∃ fd' c,
    s.transport.activeClientFd = some fd' ∧ s.transport.connectionAt fd' = some c ∧
      s.polled ≠ some c

/-- What the record says at each point of an iteration. -/
def Known (s : PolledTransport) : RunLoopPoint → Prop
  | .poll _ (some fd) => s.Snapshotted fd ∧ s.replaced = false
  | .accept _ (some fd) => s.Reported fd
  | .activate _ (some fd) => s.Reported fd
  | .closeExtraClient _ (some fd) => s.Reported fd
  | .resnapshot (some fd) => s.Reported fd
  | .recv _ _ _ => s.closed = false
  | .dropClient fd => s.Snapshotted fd
  | _ => True

/-- The record is the same, and so are the active client and its connection. -/
structure Alike (s s' : PolledTransport) : Prop where
  polled : s'.polled = s.polled
  closed : s'.closed = s.closed
  replaced : s'.replaced = s.replaced
  activeClientFd : s'.transport.activeClientFd = s.transport.activeClientFd
  connectionAt {fd : Nat} : s.transport.activeClientFd = some fd →
    s'.transport.connectionAt fd = s.transport.connectionAt fd

theorem Snapshotted.alike {fd : Nat} (h : s.Snapshotted fd) (halike : Alike s s')
    (hnone : s.transport.connectionAt fd = none → s'.transport.connectionAt fd = none) :
    s'.Snapshotted fd where
  kept hclosed := by
    rw [halike.activeClientFd]
    exact h.kept (halike.closed ▸ hclosed)
  gone hclosed := by
    obtain ⟨hactive, hconnection⟩ := h.gone (halike.closed ▸ hclosed)
    exact ⟨halike.activeClientFd.trans hactive, hnone hconnection⟩

theorem Reported.alike {fd : Nat} (h : s.Reported fd) (halike : Alike s s') :
    s'.Reported fd where
  kept hclosed := by
    obtain ⟨hactive, c, hc, hpolled⟩ := h.kept (halike.closed ▸ hclosed)
    exact ⟨halike.activeClientFd.trans hactive, c, (halike.connectionAt hactive).trans hc,
      halike.polled.trans hpolled⟩
  gone hclosed hreplaced := by
    rw [halike.activeClientFd]
    exact h.gone (halike.closed ▸ hclosed) (halike.replaced ▸ hreplaced)
  other hreplaced := by
    obtain ⟨hclosed, fd', c, hactive, hc, hpolled⟩ := h.other (halike.replaced ▸ hreplaced)
    exact ⟨halike.closed.trans hclosed, fd', c, halike.activeClientFd.trans hactive,
      (halike.connectionAt hactive).trans hc, halike.polled ▸ hpolled⟩

theorem Known.alike {point : RunLoopPoint} (h : s.Known point) (halike : Alike s s')
    (hnone : ∀ fd, s.transport.connectionAt fd = none → s'.transport.connectionAt fd = none) :
    s'.Known point := by
  unfold Known at h ⊢
  split at h
  · exact ⟨h.1.alike halike (hnone _), halike.replaced.trans h.2⟩
  · exact h.alike halike
  · exact h.alike halike
  · exact h.alike halike
  · exact h.alike halike
  · exact halike.closed.trans h
  · exact h.alike halike (hnone _)
  · trivial

/-- The main thread has closed the client, away from `recv`. -/
theorem Known.closed {point : RunLoopPoint} (h : s.Known point)
    (hpoint : ∀ fd generation ready, point ≠ .recv fd generation ready)
    (hclosed : s'.closed = true) (hreplaced : s'.replaced = false)
    (h' : Closed s.transport s'.transport) : s'.Known point := by
  have hsnapshotted {fd : Nat} (hfd : s.Snapshotted fd) : s'.Snapshotted fd := by
    refine ⟨fun hkept => by simp [hclosed] at hkept, fun _ => ⟨h'.activeClientFd, ?_⟩⟩
    cases hbefore : s.closed with
    | false => exact h'.connectionAt (.inl (hfd.kept hbefore))
    | true => exact h'.connectionAt (.inr (hfd.gone hbefore).2)
  have hreported {fd : Nat} : s'.Reported fd := by
    refine ⟨fun hkept => by simp [hclosed] at hkept, fun _ _ => h'.activeClientFd, ?_⟩
    intro hother
    simp [hreplaced] at hother
  unfold Known at h ⊢
  split at h
  · exact ⟨hsnapshotted h.1, hreplaced⟩
  · exact hreported
  · exact hreported
  · exact hreported
  · exact hreported
  · exact absurd rfl (hpoint _ _ _)
  · exact hsnapshotted h
  · trivial

structure Watched (json : JSONCodec) (s : PolledTransport) : Prop where
  isolation : Isolation json s.transport
  known : s.Known s.transport.ipcThread
  polled : ∀ c, s.polled = some c → c ∈ activations s.transport.log
  reads : s.ReadsPolled

theorem watched_start (json : JSONCodec) (listenerFd : Nat) (path : String) :
    Watched json (start listenerFd path) where
  isolation := Isolation.start json listenerFd path
  known := trivial
  polled := by simp [start]
  reads := ⟨fun hthread => (by cases hthread), rfl⟩

section Main

variable {input : IPCInput}

/-- The main thread disturbs a read only by closing the client. -/
theorem undisturbed_main (hmain : input.ofMainThread = true) :
    s.Undisturbed (.call input) ↔
      (s.transport.closesClient input = true → s.transport.atRecv = false) := by
  cases input with
  | runLoop => cases hmain
  | _ => exact Iff.rfl

/-- A closing by the main thread is recorded, and nobody has come after it yet. -/
theorem record_closed (hcloses : s.transport.closesClient input = true) :
    (s.record (.call input) t).closed = true ∧ (s.record (.call input) t).replaced = false := by
  cases input with
  | runLoop => cases hcloses
  | _ => simp [record, ReadInput.toInput, takesSnapshot, hcloses]

theorem record_alike (hmain : input.ofMainThread = true)
    (hcloses : s.transport.closesClient input = false) (h : Untouched s.transport t) :
    Alike s (s.record (.call input) t) where
  polled := by cases input <;> first | rfl | cases hmain
  closed := by
    cases input <;> simp_all [record, ReadInput.toInput, takesSnapshot, IPCInput.ofMainThread]
  replaced := by
    cases input <;>
      simp_all [record, ReadInput.toInput, takesSnapshot, activatesClient, IPCInput.ofMainThread]
  activeClientFd := h.activeClientFd
  connectionAt _ := h.connectionAt _

end Main

section Thread

/-- The connection of the active client is one that was activated. -/
theorem mem_activations_of_active (hisolation : Isolation json s.transport) {fd c : Nat}
    (hactive : s.transport.activeClientFd = some fd) (hc : s.transport.connectionAt fd = some c) :
    c ∈ activations s.transport.log := by
  obtain ⟨c', hfd, hcurrent⟩ := hisolation.client hactive
  obtain rfl : c' = c := by simpa [connectionAt, hfd] using hc
  exact List.mem_of_getLast? hcurrent

theorem exists_connection_of_active (hisolation : Isolation json s.transport) {fd : Nat}
    (hactive : s.transport.activeClientFd = some fd) :
    ∃ c, s.transport.connectionAt fd = some c := by
  obtain ⟨c, hfd, -⟩ := hisolation.client hactive
  exact ⟨c, connectionAt_eq_some.mpr hfd⟩

/-- `poll` reports the client of the first snapshot ready. -/
theorem Watched.reported (hs : Watched json s) {listener : Option Nat} {fd : Nat}
    {listenerReady : Bool} (hpoint : s.transport.ipcThread = .poll listener (some fd))
    (point : RunLoopPoint) :
    (s.record (.call (.poll (some (listenerReady, true)))) (s.transport.goto point)).Reported
      fd := by
  have hknown := hs.known
  rw [hpoint] at hknown
  obtain ⟨hsnapshotted, hreplaced⟩ := hknown
  refine ⟨fun hclosed => ?_, fun hclosed _ => ?_, fun hother => ?_⟩
  · have hactive := hsnapshotted.kept (by simpa [record, ReadInput.toInput, closesClient,
      takesSnapshot] using hclosed)
    obtain ⟨c, hc⟩ := exists_connection_of_active hs.isolation hactive
    refine ⟨hactive, c, hc, ?_⟩
    simpa [record, readyConnection, hpoint] using hc
  · exact (hsnapshotted.gone (by simpa [record, ReadInput.toInput, closesClient,
      takesSnapshot] using hclosed)).1
  · simp [record, ReadInput.toInput, activatesClient, hreplaced] at hother

theorem Watched.poll (hs : Watched json s) {ready : Option (Bool × Bool)}
    (h : s.transport.step json (.poll ready) = some t) :
    (s.record (.call (.poll ready)) t).Known t.ipcThread := by
  cases IPCStep.of_step h with
  | moves input point moves =>
      cases moves with
      | pollFails listener client hpoint => trivial
      | listenerReady listener client clientReady hpoint =>
          cases clientReady with
          | false => trivial
          | true =>
              cases client with
              | none => trivial
              | some fd => exact hs.reported hpoint _
      | listenerIdle listener client listenerReady clientReady hpoint idle =>
          cases clientReady with
          | false => trivial
          | true =>
              cases client with
              | none => trivial
              | some fd => exact hs.reported hpoint _

theorem Watched.accept (hs : Watched json s) {acceptedFd : Option Nat}
    (h : s.transport.step json (.accept acceptedFd) = some t) :
    (s.record (.call (.accept acceptedFd)) t).Known t.ipcThread := by
  have hknown := hs.known
  have halike (hactive : t.activeClientFd = s.transport.activeClientFd)
      (hconnection : ∀ fd, s.transport.activeClientFd = some fd →
        t.connectionAt fd = s.transport.connectionAt fd) :
      Alike s (s.record (.call (.accept acceptedFd)) t) := by
    refine ⟨rfl, ?_, ?_, hactive, fun h => hconnection _ h⟩ <;>
      simp [record, ReadInput.toInput, takesSnapshot, closesClient, activatesClient]
  cases IPCStep.of_step h with
  | moves input point moves =>
      cases moves with
      | acceptFails listener ready hpoint =>
          rw [hpoint] at hknown
          cases ready with
          | none => trivial
          | some fd => exact Reported.alike hknown (halike rfl fun _ _ => rfl)
  | accepts listener fd ready hpoint listening unused =>
      rw [hpoint] at hknown
      cases ready with
      | none => trivial
      | some fd' =>
          refine Reported.alike hknown (halike rfl ?_)
          intro active hactive
          obtain ⟨c, hc⟩ := exists_connection_of_active hs.isolation hactive
          have hne : active ≠ fd := by
            rintro rfl
            simp [connectionAt, unused] at hc
          simp [connectionAt, Function.update_of_ne hne]

theorem Watched.recv (hs : Watched json s) {input : ReadInput} {chunk : Option Chunk}
    (hinput : input.toInput = .recv chunk) (h : s.transport.step json (.recv chunk) = some t) :
    (s.record input t).Known t.ipcThread := by
  have hknown := hs.known
  cases IPCStep.of_step h with
  | moves _ point moves =>
      cases moves with
      | recvFails fd generation ready hpoint =>
          rw [hpoint] at hknown
          have hclosed : s.closed = false := hknown
          refine ⟨fun _ => (hs.reads.ready hpoint).1, fun hother => ?_⟩
          simp [record, hinput, takesSnapshot, closesClient, hclosed] at hother
  | receives fd generation ready connection chunk hpoint client => trivial

/-- A section of the IPC thread that takes no snapshot and activates nobody records nothing. -/
theorem record_runLoop (hsnapshot : s.transport.takesSnapshot .runLoop = false)
    (hactivates : s.transport.activatesClient .runLoop = false)
    (hactive : t.activeClientFd = s.transport.activeClientFd)
    (hconnection : ∀ fd, s.transport.activeClientFd = some fd →
      t.connectionAt fd = s.transport.connectionAt fd) :
    Alike s (s.record (.call .runLoop) t) := by
  refine ⟨rfl, ?_, ?_, hactive, fun h => hconnection _ h⟩ <;>
    simp [record, ReadInput.toInput, hsnapshot, hactivates, closesClient]

/-- `accept` has brought a connection: it is closed again if there is a client, and otherwise takes
the place of the one that the main thread has closed. -/
theorem Watched.activate (hs : Watched json s) {acceptedFd : Nat} {ready : Option Nat}
    (hpoint : s.transport.ipcThread = .activate acceptedFd ready) :
    (s.record (.call .runLoop) (s.transport.activate acceptedFd ready)).Known
      (s.transport.activate acceptedFd ready).ipcThread := by
  have hknown := hs.known
  have hfresh := hs.isolation.point
  rw [hpoint] at hknown hfresh
  cases hactive : s.transport.activeClientFd with
  | some fd =>
      have hextra : s.transport.activate acceptedFd ready =
          s.transport.goto (.closeExtraClient acceptedFd ready) := by
        simp [MCPIPCTransport.activate, hactive]
      rw [hextra]
      cases ready with
      | none => trivial
      | some fd' =>
          refine Reported.alike hknown (record_runLoop ?_ ?_ rfl fun _ _ => rfl)
          · simp [takesSnapshot, hpoint]
          · simp [activatesClient, hpoint, hactive]
  | none =>
      obtain ⟨-, c, hfd, hnew⟩ := hfresh
      cases ready with
      | none =>
          simp only [MCPIPCTransport.activate, hactive]
          trivial
      | some fd' =>
          have hreported : s.Reported fd' := hknown
          have hclosed : s.closed = true := by
            by_contra hopen
            have hkept := (hreported.kept (by simpa using hopen)).1
            simp [hactive] at hkept
          simp only [MCPIPCTransport.activate, hactive]
          refine ⟨fun hkept => ?_, fun _ hother => ?_, fun _ => ?_⟩
          · simp [record, ReadInput.toInput, takesSnapshot, hpoint, hclosed] at hkept
          · simp [record, ReadInput.toInput, takesSnapshot, activatesClient, closesClient, hpoint,
              hactive, hclosed] at hother
          · refine ⟨?_, acceptedFd, c, rfl, connectionAt_eq_some.mpr hfd, ?_⟩
            · simp [record, ReadInput.toInput, takesSnapshot, hpoint, hclosed]
            · intro hpolled
              exact hnew (hs.polled c hpolled)

/-- The client is active at the second snapshot and was not replaced, so nobody has closed it. -/
theorem Reported.closed_eq_false {fd fd' : Nat} (h : s.Reported fd)
    (hactive : s.transport.activeClientFd = some fd') (hreplaced : s.replaced = false) :
    s.closed = false := by
  by_contra hclosed
  have hnone := h.gone (by simpa using hclosed) hreplaced
  simp [hactive] at hnone

theorem Watched.runLoop (hs : Watched json s) (h : s.transport.step json .runLoop = some t)
    (hguard : s.Undisturbed (.call .runLoop)) :
    (s.record (.call .runLoop) t).Known t.ipcThread := by
  have hknown := hs.known
  cases IPCStep.of_step h with
  | moves input point moves =>
      cases moves with
      | polls hpoint free something =>
          cases hactive : s.transport.activeClientFd with
          | none => trivial
          | some fd =>
              refine ⟨⟨fun _ => hactive, fun hclosed => ?_⟩, ?_⟩
              · simp [record, ReadInput.toInput, takesSnapshot, hpoint] at hclosed
              · simp [record, ReadInput.toInput, takesSnapshot, hpoint]
      | reads fd ready hpoint free active =>
          rw [hpoint] at hknown
          simp only [Undisturbed, hpoint] at hguard
          have hclosed := Reported.closed_eq_false hknown active hguard
          show (s.record (.call .runLoop) _).closed = false
          simp [record, ReadInput.toInput, closesClient, hclosed]
      | _ => trivial
  | activate fd ready hpoint free => exact hs.activate hpoint
  | closeExtraClient fd ready hpoint =>
      have hextra := hs.isolation.point
      rw [hpoint] at hknown hextra
      cases ready with
      | none => trivial
      | some fd' =>
          refine Reported.alike hknown (record_runLoop ?_ ?_ rfl ?_)
          · simp [takesSnapshot, hpoint]
          · simp [activatesClient, hpoint]
          · intro active hactive
            have hne : active ≠ fd := by
              rintro rfl
              exact hextra.1 hactive
            simp [connectionAt, closeDescriptor, goto, Function.update_of_ne hne]
  | dropClient fd hpoint free => trivial
  | dispatchNext generation hpoint =>
      unfold dispatchNext
      split
      · trivial
      · simp only [dispatchLine, hpoint]
        trivial
  | requestStop hpoint free => trivial

end Thread

/-- Away from `recv` there is nothing to ask but that no client was dropped wrongly. -/
theorem readsPolled_iff_of_away {s : PolledTransport} (h : s.transport.atRecv = false) :
    s.ReadsPolled ↔ s.droppedInterrupted = false := by
  constructor
  · exact fun hs => hs.dropped
  · intro hdropped
    refine ⟨fun hthread => ?_, hdropped⟩
    exact absurd hthread (atRecv_eq_false.mp h _ _ _)

section Reads

variable {input : IPCInput}

/-- The main thread leaves the client alone. -/
theorem ReadsPolled.alike (hs : s.ReadsPolled) (halike : Alike s s')
    (hthread : s'.transport.ipcThread = s.transport.ipcThread)
    (hdropped : s'.droppedInterrupted = s.droppedInterrupted) : s'.ReadsPolled where
  ready hrecv := by
    obtain ⟨hactive, c, hfd, hpolled⟩ := hs.ready (hthread ▸ hrecv)
    have hc := (halike.connectionAt hactive).trans (connectionAt_eq_some.mpr hfd)
    exact ⟨halike.activeClientFd.trans hactive, c, connectionAt_eq_some.mp hc,
      halike.polled.trans hpolled⟩
  dropped := hdropped.trans hs.dropped

/-- The main thread closes the client: the IPC thread must not be about to read from it. -/
theorem ReadsPolled.closed_iff (hs : s.ReadsPolled) (h : Closed s.transport s'.transport)
    (hdropped : s'.droppedInterrupted = s.droppedInterrupted) :
    s'.ReadsPolled ↔ s.transport.atRecv = false := by
  have hat : s'.transport.atRecv = s.transport.atRecv := by simp only [atRecv, h.ipcThread]
  constructor
  · intro ht
    rw [← hat, atRecv_eq_false]
    intro fd generation ready hthread
    have hactive := (ht.ready hthread).1
    simp [h.activeClientFd] at hactive
  · intro haway
    exact (readsPolled_iff_of_away (hat.trans haway)).mpr (hdropped.trans hs.dropped)

theorem record_dropped_main (hmain : input.ofMainThread = true) :
    (s.record (.call input) t).droppedInterrupted = s.droppedInterrupted := by
  cases input <;> first | rfl | cases hmain

/-- `recv` comes next: nobody must have taken the place of the client that was reported. -/
theorem Watched.resnapshot_iff (hs : Watched json s) {ready : Nat}
    (hthread : s.transport.ipcThread = .resnapshot (some ready))
    (h : s.transport.runLoop json = some t) :
    (s.record (.call .runLoop) t).ReadsPolled ↔ s.replaced = false := by
  have hreported := hs.known
  rw [hthread] at hreported
  replace hreported : s.Reported ready := hreported
  have hdropped : (s.record (.call .runLoop) t).droppedInterrupted = false := by
    simp [record, dropsClient, hthread, hs.reads.dropped]
  constructor
  · intro ht
    by_contra hreplaced
    obtain ⟨-, fd, c, hactive, hc, hpolled⟩ := hreported.other (by simpa using hreplaced)
    obtain rfl := runLoop_resnapshot h hthread hactive
    obtain ⟨-, c', hfd, hpolled'⟩ := ht.ready rfl
    have hc' : s.transport.connectionAt fd = some c' := connectionAt_eq_some.mpr hfd
    obtain rfl := Option.some.inj (hc.symm.trans hc')
    exact hpolled hpolled'
  · intro hreplaced
    refine ⟨?_, hdropped⟩
    intro fd ready' generation hrecv
    obtain ⟨-, hactive, hfds, hkept⟩ := runLoop_recv h hrecv
    have hclosed := hreported.closed_eq_false hactive hreplaced
    obtain ⟨hactive', c, hc, hpolled⟩ := hreported.kept hclosed
    obtain rfl : ready = fd := by simpa [hactive] using hactive'.symm
    exact ⟨hkept.trans hactive, c, (congrFun hfds _).trans (connectionAt_eq_some.mp hc), hpolled⟩

/-- The sections of `RunLoop`: only the second snapshot and the one after `recv` matter. -/
theorem Watched.runLoop_iff (hs : Watched json s) (h : s.transport.runLoop json = some t) :
    (s.record (.call .runLoop) t).ReadsPolled ↔ s.Undisturbed (.call .runLoop) := by
  by_cases hresnapshot : ∃ ready, s.transport.ipcThread = .resnapshot (some ready)
  · obtain ⟨ready, hthread⟩ := hresnapshot
    rw [hs.resnapshot_iff hthread h]
    simp only [Undisturbed, hthread]
  · have haway : t.atRecv = false := by
      rw [atRecv_eq_false]
      intro fd generation ready hrecv
      exact hresnapshot ⟨ready, (runLoop_recv h hrecv).1⟩
    rw [readsPolled_iff_of_away haway]
    have hknown := hs.known
    simp only [Undisturbed, record, hs.reads.dropped, Bool.false_or]
    split
    · rename_i ready hthread
      exact absurd ⟨ready, hthread⟩ hresnapshot
    · rename_i fd hthread
      rw [hthread] at hknown
      replace hknown : s.Snapshotted fd := hknown
      simp only [dropsClient, hthread]
      cases hclosed : s.closed with
      | false => cases s.interrupted <;> simp [hknown.kept hclosed]
      | true => cases s.interrupted <;> simp [(hknown.gone hclosed).1]
    · rename_i hother
      have hdrops : s.transport.dropsClient = false := by
        unfold dropsClient
        split
        · rename_i fd hthread
          exact absurd hthread (hother fd)
        · rfl
      simp [hdrops]

/-- Each step keeps the reads to what was polled exactly when it is undisturbed. -/
theorem Watched.step_iff {input : ReadInput} {next : PolledTransport} (hs : Watched json s)
    (h : s.step json input = some next) : next.ReadsPolled ↔ s.Undisturbed input := by
  obtain ⟨t, hstep, rfl⟩ := Option.map_eq_some_iff.mp h
  cases input with
  | interruptedRecv =>
      have haway : t.atRecv = false := recv_recv hstep
      exact iff_of_true ((readsPolled_iff_of_away haway).mpr hs.reads.dropped) trivial
  | call input =>
      by_cases hmain : input.ofMainThread = true
      · cases hcloses : s.transport.closesClient input with
        | true =>
            rw [hs.reads.closed_iff (closed_of_closesClient hstep hcloses)
              (record_dropped_main hmain), undisturbed_main hmain, hcloses]
            exact ⟨fun haway _ => haway, fun haway => haway rfl⟩
        | false =>
            have huntouched := untouched_of_main hs.isolation hstep hmain hcloses
            refine iff_of_true (hs.reads.alike (record_alike hmain hcloses huntouched)
              huntouched.ipcThread (record_dropped_main hmain)) ?_
            rw [undisturbed_main hmain, hcloses]
            exact fun hclosing => absurd hclosing Bool.false_ne_true
      · cases input with
        | runLoop => exact hs.runLoop_iff hstep
        | poll ready =>
            have haway : t.atRecv = false := poll_recv hstep
            refine iff_of_true ((readsPolled_iff_of_away haway).mpr hs.reads.dropped) ?_
            exact fun hcloses => by cases hcloses
        | accept acceptedFd =>
            have haway : t.atRecv = false := accept_recv hstep
            refine iff_of_true ((readsPolled_iff_of_away haway).mpr hs.reads.dropped) ?_
            exact fun hcloses => by cases hcloses
        | recv chunk =>
            have haway : t.atRecv = false := recv_recv hstep
            refine iff_of_true ((readsPolled_iff_of_away haway).mpr hs.reads.dropped) ?_
            exact fun hcloses => by cases hcloses
        | _ => exact absurd rfl hmain

end Reads

/-- What `poll` reports ready is a connection that was activated. -/
theorem Watched.polled_step (hs : Watched json s) {input : ReadInput}
    (h : s.transport.step json input.toInput = some t) {c : Nat}
    (hc : (s.record input t).polled = some c) : c ∈ activations t.log := by
  apply activations_step h
  simp only [record] at hc
  split at hc
  · rename_i ready
    have hknown := hs.known
    unfold readyConnection at hc
    split at hc
    · rename_i listener fd hthread
      rw [hthread] at hknown
      obtain ⟨hsnapshotted, -⟩ : s.Snapshotted fd ∧ s.replaced = false := hknown
      cases hclosed : s.closed with
      | false => exact mem_activations_of_active hs.isolation (hsnapshotted.kept hclosed) hc
      | true => simp [(hsnapshotted.gone hclosed).2] at hc
    · cases hc
  · exact hs.polled c hc

/-- The record stays right as long as the steps are undisturbed. -/
theorem Watched.known_step (hs : Watched json s) {input : ReadInput}
    (h : s.transport.step json input.toInput = some t) (hguard : s.Undisturbed input) :
    (s.record input t).Known t.ipcThread := by
  cases input with
  | interruptedRecv => exact hs.recv rfl h
  | call input =>
      by_cases hmain : input.ofMainThread = true
      · cases hcloses : s.transport.closesClient input with
        | true =>
            have hclosed := closed_of_closesClient h hcloses
            have haway : s.transport.atRecv = false := (undisturbed_main hmain).mp hguard hcloses
            have hrecord := record_closed (s := s) (t := t) hcloses
            rw [hclosed.ipcThread]
            exact hs.known.closed (atRecv_eq_false.mp haway) hrecord.1 hrecord.2 hclosed
        | false =>
            have huntouched := untouched_of_main hs.isolation h hmain hcloses
            rw [huntouched.ipcThread]
            refine hs.known.alike (record_alike hmain hcloses huntouched) ?_
            intro fd hnone
            exact (huntouched.connectionAt fd).trans hnone
      · cases input with
        | runLoop => exact hs.runLoop h hguard
        | poll ready => exact hs.poll h
        | accept acceptedFd => exact hs.accept h
        | recv chunk => exact hs.recv rfl h
        | _ => exact absurd rfl hmain

theorem Watched.step {input : ReadInput} {next : PolledTransport} (hs : Watched json s)
    (h : s.step json input = some next) :
    (next.ReadsPolled ↔ s.Undisturbed input) ∧ (s.Undisturbed input → Watched json next) := by
  have hiff := hs.step_iff h
  apply And.intro hiff
  intro hguard
  obtain ⟨t, hstep, rfl⟩ := Option.map_eq_some_iff.mp h
  exact ⟨hs.isolation.step hstep, hs.known_step hstep hguard, fun c => hs.polled_step hstep,
    hiff.mpr hguard⟩

end PolledTransport

/-- Every `recv` of a run is on the descriptor of the client that this iteration's `poll` reported
ready, and no client is dropped for an interrupted call, exactly when in every iteration whose
`poll` reports the client ready no other client takes the place of one that the main thread has
closed, the main thread closes none between the second snapshot and `recv`, and none is left after
an interrupted `recv`. -/
theorem readsPolled_iff {json : JSONCodec} {listenerFd : Nat} {path : String}
    {inputs : List ReadInput} {s : PolledTransport} :
    Exec (Through (Step (PolledTransport.step json)) PolledTransport.ReadsPolled)
        (PolledTransport.start listenerFd path) inputs s ↔
      Exec (Guarded (Step (PolledTransport.step json)) PolledTransport.Undisturbed)
        (PolledTransport.start listenerFd path) inputs s := by
  apply Exec.through_iff_guarded (J := PolledTransport.Watched json)
  · intro s input next hs hstep
    exact hs.step hstep
  · exact PolledTransport.watched_start json listenerFd path

/-- A client connects and sends a message. -/
def firstMessage : List IPCInput :=
  [.runLoop, .runLoop, .poll (some (true, false)), .accept (some 4), .runLoop, .runLoop,
    .runLoop, .runLoop, .poll (some (false, true)), .runLoop,
    .recv (some ⟨[123, 125, 10], by decide, by decide⟩), .runLoop, .runLoop]

/-- The client is closed by a failed write after `poll` has reported it ready, and the next one
gets its descriptor number. -/
def replacedClient : List IPCInput :=
  firstMessage ++ [.runLoop, .runLoop, .poll (some (true, true)), .sendResponse 0 (some []),
    .send .failed, .accept (some 4), .runLoop, .runLoop]

/-- A signal arrives while the second message is read. -/
def interruptedRead : List ReadInput :=
  firstMessage.map .call ++ [.call .runLoop, .call .runLoop,
    .call (.poll (some (false, true))), .call .runLoop, .interruptedRecv, .call .runLoop]

/-- `recv` is called for a client that was never polled; a client is dropped for a signal. -/
theorem replacedClient_readUnpolled :
    (∃ s, Exec (Step (PolledTransport.step emptyObjectJSON))
        (PolledTransport.start 3 "/run/browserd.sock") (replacedClient.map .call) s ∧
      ¬ s.ReadsPolled) ∧
    ∃ s, Exec (Step (PolledTransport.step emptyObjectJSON))
        (PolledTransport.start 3 "/run/browserd.sock") interruptedRead s ∧
      ¬ s.ReadsPolled := by
  constructor
  · have hend : (((replacedClient.map .call).foldlM (PolledTransport.step emptyObjectJSON)
        (PolledTransport.start 3 "/run/browserd.sock")).map fun s =>
          (s.transport.atRecv, s.transport.activeClientFd.bind fun fd =>
            s.transport.connectionAt fd, s.polled)) = some (true, some 1, some 0) := by
      decide +kernel
    obtain ⟨s, hrun, hs⟩ := Exec.exists_of_foldlM hend
    simp only [Prod.mk.injEq] at hs
    obtain ⟨hat, hconnection, hpolled⟩ := hs
    refine ⟨s, hrun, fun hreads => ?_⟩
    unfold MCPIPCTransport.atRecv at hat
    split at hat
    · rename_i fd generation ready hthread
      obtain ⟨hactive, c, hfd, hc⟩ := hreads.ready hthread
      simp [hactive, MCPIPCTransport.connectionAt, hfd] at hconnection
      simp [hpolled, hconnection] at hc
    · cases hat
  · have hend : ((interruptedRead.foldlM (PolledTransport.step emptyObjectJSON)
        (PolledTransport.start 3 "/run/browserd.sock")).map fun s => s.droppedInterrupted) =
          some true := by
      decide +kernel
    obtain ⟨s, hrun, hs⟩ := Exec.exists_of_foldlM hend
    refine ⟨s, hrun, fun hreads => ?_⟩
    simp [hreads.dropped] at hs

end Browserd.Posix
