import Mathlib.Data.List.Range
import Browserd.MCP.ClientSteps

/-!
# Reconnecting clients

The clients' side of the socket: one client after the other connects and closes its connection
before the next one connects. `accept` takes the connections of the backlog in that order.
-/

namespace Browserd.Posix

open Transition

/-- A client connects, or closes its end of the connection. -/
inductive ClientInput where
  | call (input : IPCInput)
  | connect
  | hangUp

/-- The transport, the number of `connect` calls so far, and whether the connection of the last
one is still open at the client's end; and whether, since the last client became the active one,
`recv` has returned its end of stream or an error, or the main thread has closed it. -/
structure ServedClients where
  transport : MCPIPCTransport
  connectedCount : Nat
  clientOpen : Bool
  released : Bool

/-- The point between `accept` and the decision about the connection. -/
def RunLoopPoint.isActivate : RunLoopPoint → Bool
  | .activate _ _ => true
  | _ => false

/-- The connection is not going to be the active client. -/
def RunLoopPoint.turnsAway : RunLoopPoint → Bool
  | .closeExtraClient _ _ => true
  | _ => false

/-- The number of connections that `accept` has returned and `RunLoop` has decided about. -/
def MCPIPCTransport.decidedCount (s : MCPIPCTransport) : Nat :=
  if s.ipcThread.isActivate then s.acceptedCount - 1 else s.acceptedCount

/-- `recv` returns no data, or the main thread closes the client. -/
def MCPIPCTransport.releasesClient (s : MCPIPCTransport) : IPCInput → Bool
  | .recv none => true
  | input => s.closesClient input

namespace ServedClients

def start (listenerFd : Nat) (path : String) : ServedClients :=
  ⟨.start listenerFd path, 0, false, true⟩

/-- What is recorded of a step of the transport that leads to `t`. -/
def record (s : ServedClients) (input : IPCInput) (t : MCPIPCTransport) : ServedClients :=
  { s with
    transport := t
    released := !s.transport.activatesClient input &&
      (s.released || s.transport.releasesClient input) }

/-- The client of this connection has closed its end. -/
def hungUp (s : ServedClients) (connection : Nat) : Bool :=
  connection + 1 < s.connectedCount || !s.clientOpen

/-- The next client connects only after the one before it has closed its connection. -/
def step (json : JSONCodec) (s : ServedClients) : ClientInput → Option ServedClients
  | .connect =>
      if s.clientOpen then none
      else some { s with connectedCount := s.connectedCount + 1, clientOpen := true }
  | .hangUp => if s.clientOpen then some { s with clientOpen := false } else none
  | .call (.accept (some fd)) =>
      if s.transport.acceptedCount < s.connectedCount then
        (s.transport.accept (some fd)).map (s.record (.accept (some fd)))
      else none
  | .call input => (s.transport.step json input).map (s.record input)

/-- Every connection became the active client in its turn, except one that is still to be decided
about, and none is about to be closed as an extra one. -/
structure Admitted (s : ServedClients) : Prop where
  activated : activations s.transport.log = List.range s.transport.decidedCount
  notExtra : s.transport.ipcThread.turnsAway = false

/-- Before `RunLoop` decides about a connection, the end of the one before it has been read, or the
main thread has closed it. -/
def Noticed (s : ServedClients) : ClientInput → Prop
  | .call .runLoop =>
      match s.transport.ipcThread with
      | .activate _ _ => s.released = true
      | _ => True
  | _ => True

end ServedClients

/-- A step that decides about no connection and accepts none. -/
structure Quiet (s t : MCPIPCTransport) : Prop where
  activations : activations t.log = activations s.log
  acceptedCount : t.acceptedCount = s.acceptedCount
  isActivate : t.ipcThread.isActivate = s.ipcThread.isActivate
  turnsAway : s.ipcThread.turnsAway = false → t.ipcThread.turnsAway = false

namespace Quiet

open MCPIPCTransport

variable {json : JSONCodec} {s t u : MCPIPCTransport}

theorem trans (h : Quiet s t) (h' : Quiet t u) : Quiet s u where
  activations := h'.activations.trans h.activations
  acceptedCount := h'.acceptedCount.trans h.acceptedCount
  isActivate := h'.isActivate.trans h.isActivate
  turnsAway hs := h'.turnsAway (h.turnsAway hs)

theorem decidedCount (h : Quiet s t) : t.decidedCount = s.decidedCount := by
  rw [MCPIPCTransport.decidedCount, h.isActivate, h.acceptedCount, MCPIPCTransport.decidedCount]

/-- The IPC thread moves on from a point that is not the decision to another such point. -/
theorem goto (point : RunLoopPoint) (hfrom : s.ipcThread.isActivate = false)
    (hto : point.isActivate = false) (haway : point.turnsAway = false) : Quiet s (s.goto point) :=
  ⟨rfl, rfl, hto.trans hfrom.symm, fun _ => haway⟩

theorem mainGoto (point : MainPoint) : Quiet s (s.mainGoto point) := ⟨rfl, rfl, rfl, id⟩

theorem closeDescriptor (fd : Nat) : Quiet s (s.closeDescriptor fd) where
  activations := closeDescriptor_activations fd
  acceptedCount := rfl
  isActivate := rfl
  turnsAway := id

theorem closeActiveClient : Quiet s s.closeActiveClient := by
  unfold MCPIPCTransport.closeActiveClient
  split
  · exact ⟨rfl, rfl, rfl, id⟩
  · rename_i fd _
    exact (closeDescriptor fd).trans ⟨rfl, rfl, rfl, id⟩

theorem closeListener : Quiet s s.closeListener := by
  unfold MCPIPCTransport.closeListener
  split
  · exact ⟨rfl, rfl, rfl, id⟩
  · rename_i fd _
    exact (closeDescriptor fd).trans ⟨rfl, rfl, rfl, id⟩

theorem unlinkBoundPath : Quiet s s.unlinkBoundPath := by
  unfold MCPIPCTransport.unlinkBoundPath
  split
  · exact ⟨rfl, rfl, rfl, id⟩
  · exact ⟨activations_neutral rfl, rfl, rfl, id⟩

theorem dropClient {fd : Nat} (hthread : s.ipcThread = .dropClient fd) :
    Quiet s (s.dropClient fd) := by
  have hmoved : ∀ next : MCPIPCTransport, Quiet s next →
      Quiet s { next with buffer := [], ipcThread := .isStopping } := by
    intro next hnext
    refine ⟨hnext.activations, hnext.acceptedCount, ?_, fun _ => rfl⟩
    rw [hthread]
    rfl
  unfold MCPIPCTransport.dropClient
  apply hmoved
  split
  · exact closeActiveClient
  · exact ⟨rfl, rfl, rfl, id⟩

theorem dispatchNext {generation : UInt64} (hthread : s.ipcThread = .dispatch generation) :
    Quiet s (s.dispatchNext json generation) := by
  unfold MCPIPCTransport.dispatchNext
  split
  · exact goto _ (by rw [hthread]; rfl) rfl rfl
  · exact ⟨activations_dispatched _ _, rfl, rfl, id⟩

theorem requestStop (hthread : s.ipcThread = .requestStop) :
    Quiet s (s.requestStopLocked.goto .returned) := by
  have hclosed : Quiet s s.requestStopLocked :=
    (closeActiveClient.trans closeListener).trans unlinkBoundPath
  exact hclosed.trans (goto _ (hclosed.isActivate.trans (by rw [hthread]; rfl)) rfl rfl)

theorem moves {input : IPCInput} {point : RunLoopPoint} (hmoves : ThreadMoves s input point) :
    Quiet s (s.goto point) := by
  apply goto point
  · cases hmoves <;> simp [*, RunLoopPoint.isActivate]
  · cases hmoves <;> rfl
  · cases hmoves <;> rfl

theorem step {input : IPCInput} (h : s.step json input = some t)
    (hdecide : input = .runLoop → s.ipcThread.isActivate = false)
    (haccept : ∀ fd, input ≠ .accept (some fd)) : Quiet s t := by
  cases IPCStep.of_step h with
  | moves input point moves => exact Quiet.moves moves
  | activate fd ready point free =>
      have hother := hdecide rfl
      simp [point, RunLoopPoint.isActivate] at hother
  | closeExtraClient fd ready point =>
      have hfrom : (s.closeDescriptor fd).ipcThread.isActivate = false := by
        rw [MCPIPCTransport.closeDescriptor, point]
        rfl
      exact (closeDescriptor fd).trans (goto _ hfrom rfl rfl)
  | dropClient fd point free => exact dropClient point
  | dispatchNext generation point => exact dispatchNext point
  | requestStop point free => exact requestStop point
  | accepts listener fd ready point listening unused => exact absurd rfl (haccept fd)
  | receives fd generation ready connection chunk point client =>
      exact ⟨activations_received _ _, rfl, by rw [point]; rfl, fun _ => rfl⟩
  | takes index response request idle posted dropped => exact ⟨rfl, rfl, rfl, id⟩
  | responds index response request serialized idle posted active generation text =>
      exact ⟨rfl, rfl, rfl, id⟩
  | writes request remaining fd connection count sending active client bound =>
      exact ⟨activations_neutral rfl, rfl, rfl, id⟩
  | retries request remaining fd sending active => exact ⟨rfl, rfl, rfl, id⟩
  | sendFails request remaining fd sending active =>
      exact (mainGoto _).trans closeActiveClient
  | destroy idle => exact ⟨rfl, rfl, rfl, id⟩
  | closesClient point => exact (mainGoto _).trans closeActiveClient
  | closesListener point => exact (mainGoto _).trans closeListener
  | unlinks point => exact (mainGoto _).trans unlinkBoundPath

end Quiet

namespace ServedClients

open MCPIPCTransport

variable {json : JSONCodec} {s : ServedClients} {t : MCPIPCTransport}

/-- A client that was released is gone, or about to be dropped; one that was not is there until
`RunLoop` returns. -/
structure Holding (s : ServedClients) : Prop where
  released : s.released = true →
    ∀ fd, s.transport.activeClientFd = some fd → s.transport.ipcThread = .dropClient fd
  held : s.released = false →
    s.transport.activeClientFd ≠ none ∨ s.transport.ipcThread = .returned
  dropping {fd : Nat} : s.transport.ipcThread = .dropClient fd → s.released = true

/-- The IPC thread moves on between points at which it drops no client. -/
theorem Holding.moves {s' : ServedClients} (h : s.Holding)
    (hactive : s'.transport.activeClientFd = s.transport.activeClientFd)
    (hreleased : s'.released = s.released)
    (hfrom : ∀ fd, s.transport.ipcThread ≠ .dropClient fd)
    (hrunning : s.transport.ipcThread ≠ .returned)
    (hto : ∀ fd, s'.transport.ipcThread ≠ .dropClient fd) : s'.Holding where
  released hreleased' fd hfd :=
    absurd (h.released (hreleased ▸ hreleased') fd (hactive ▸ hfd)) (hfrom fd)
  held hheld := by
    rw [hactive]
    exact .inl ((h.held (hreleased ▸ hheld)).resolve_right hrunning)
  dropping hthread := absurd hthread (hto _)

theorem Holding.activate (h : s.Holding) {fd : Nat} {ready : Option Nat}
    (hpoint : s.transport.ipcThread = .activate fd ready) :
    (s.record .runLoop (s.transport.activate fd ready)).Holding := by
  cases hactive : s.transport.activeClientFd with
  | some fd' =>
      refine h.moves ?_ ?_ (by simp [hpoint]) (by simp [hpoint]) ?_
      · simp [record, MCPIPCTransport.activate, hactive, goto]
      · simp [record, activatesClient, releasesClient, closesClient, hpoint, hactive]
      · simp [record, MCPIPCTransport.activate, hactive, goto]
  | none =>
      refine ⟨fun hreleased => ?_, fun _ => .inl ?_, fun hthread => ?_⟩
      · simp [record, activatesClient, hpoint, hactive] at hreleased
      · simp [record, MCPIPCTransport.activate, hactive]
      · simp [record, MCPIPCTransport.activate, hactive] at hthread

/-- The section after `recv` closes the client that was released. -/
theorem Holding.dropClient (h : s.Holding) {fd : Nat}
    (hpoint : s.transport.ipcThread = .dropClient fd) :
    (s.record .runLoop (s.transport.dropClient fd)).Holding := by
  have hreleased := h.dropping hpoint
  have hgone : (s.transport.dropClient fd).activeClientFd = none := by
    cases hactive : s.transport.activeClientFd with
    | none => simp [MCPIPCTransport.dropClient, hactive]
    | some fd' =>
        have hthread := h.released hreleased fd' hactive
        obtain rfl : fd = fd' := by simpa [hpoint] using hthread
        simp [MCPIPCTransport.dropClient, hactive, closeActiveClient]
  refine ⟨fun _ fd' hfd' => ?_, fun hheld => ?_, fun hthread => ?_⟩
  · replace hfd' : (s.transport.dropClient fd).activeClientFd = some fd' := hfd'
    rw [hgone] at hfd'
    cases hfd'
  · simp [record, activatesClient, hpoint, hreleased] at hheld
  · simp [record, MCPIPCTransport.dropClient] at hthread

/-- Of the main thread's steps only the closing of the client is recorded. -/
theorem record_released_main {input : IPCInput} (hmain : input.ofMainThread = true) :
    (s.record input t).released = (s.released || s.transport.closesClient input) := by
  cases input with
  | runLoop => cases hmain
  | poll ready => cases hmain
  | accept acceptedFd => cases hmain
  | recv chunk => cases hmain
  | _ => simp [record, activatesClient, releasesClient]

/-- An input that neither brings a client nor takes one away is not recorded. -/
theorem record_released_other {input : IPCInput}
    (hactivates : s.transport.activatesClient input = false)
    (hreleases : s.transport.releasesClient input = false) :
    (s.record input t).released = s.released := by
  simp [record, hactivates, hreleases]

theorem Holding.main (h : s.Holding) (hisolation : Isolation json s.transport) {input : IPCInput}
    (hmain : input.ofMainThread = true) (hstep : s.transport.step json input = some t) :
    (s.record input t).Holding := by
  have hrecord : (s.record input t).released = (s.released || s.transport.closesClient input) :=
    record_released_main hmain
  cases hcloses : s.transport.closesClient input with
  | true =>
      have hclosed := closed_of_closesClient hstep hcloses
      have hreleased : (s.record input t).released = true := by rw [hrecord, hcloses, Bool.or_true]
      refine ⟨fun _ fd hfd => ?_, fun hheld => ?_, fun _ => hreleased⟩
      · exact absurd (hclosed.activeClientFd.symm.trans hfd) (Option.some_ne_none fd).symm
      · exact absurd (hheld.symm.trans hreleased) Bool.false_ne_true
  | false =>
      have huntouched := untouched_of_main hisolation hstep hmain hcloses
      have hreleased : (s.record input t).released = s.released := by
        rw [hrecord, hcloses, Bool.or_false]
      refine ⟨fun hr fd hfd => ?_, fun hheld => ?_, fun hthread => ?_⟩
      · exact huntouched.ipcThread.trans
          (h.released (hreleased ▸ hr) fd (huntouched.activeClientFd ▸ hfd))
      · have hbefore := h.held (hreleased ▸ hheld)
        rwa [← huntouched.activeClientFd, ← huntouched.ipcThread] at hbefore
      · rw [hreleased]
        exact h.dropping (huntouched.ipcThread ▸ hthread)

/-- `recv` has returned no data: the section that closes the client comes next. -/
theorem holding_recvFails (hisolation : Isolation json s.transport) {fd ready : Nat}
    {generation : UInt64} (hpoint : s.transport.ipcThread = .recv fd generation ready) :
    (s.record (.recv none) (s.transport.goto (.dropClient fd))).Holding := by
  have hpointOK := hisolation.point
  rw [hpoint] at hpointOK
  have hreleased : (s.record (.recv none) (s.transport.goto (.dropClient fd))).released = true := by
    simp [record, activatesClient, releasesClient]
  refine ⟨fun _ fd' hfd' => ?_, fun hheld => ?_, fun _ => hreleased⟩
  · replace hfd' : s.transport.activeClientFd = some fd' := hfd'
    rcases hpointOK.2 with hactive | ⟨hactive, -⟩
    · obtain rfl : fd = fd' := Option.some.inj (hactive.symm.trans hfd')
      rfl
    · rw [hactive] at hfd'
      cases hfd'
  · exact absurd (hheld.symm.trans hreleased) Bool.false_ne_true

theorem holding_requestStop :
    (s.record .runLoop (s.transport.requestStopLocked.goto .returned)).Holding := by
  have hgone : s.transport.requestStopLocked.activeClientFd = none := by
    rw [requestStopLocked, (unlinkBoundPath_untouched _).activeClientFd]
    unfold closeListener closeActiveClient
    split <;> split <;> simp_all [closeDescriptor]
  refine ⟨fun _ fd hfd => ?_, fun _ => .inr rfl, fun hthread => ?_⟩
  · replace hfd : s.transport.requestStopLocked.activeClientFd = some fd := hfd
    rw [hgone] at hfd
    cases hfd
  · cases hthread

theorem Holding.thread (h : s.Holding) (hisolation : Isolation json s.transport)
    {input : IPCInput} (hthread : input.ofMainThread = false)
    (hstep : s.transport.step json input = some t) : (s.record input t).Holding := by
  cases IPCStep.of_step hstep with
  | moves input point moves =>
      cases moves with
      | recvFails fd generation ready hpoint => exact holding_recvFails hisolation hpoint
      | _ =>
          refine h.moves rfl (record_released_other ?_ ?_) ?_ ?_ ?_ <;>
            simp_all [activatesClient, releasesClient, closesClient, record, goto]
  | activate fd ready point free => exact h.activate point
  | closeExtraClient fd ready point =>
      refine h.moves rfl (record_released_other ?_ ?_) (by simp [point]) (by simp [point]) ?_
      · simp [activatesClient, point]
      · rfl
      · simp [record, goto]
  | dropClient fd point free => exact h.dropClient point
  | dispatchNext generation point =>
      refine h.moves ?_ (record_released_other ?_ ?_) (by simp [point]) (by simp [point]) ?_
      · unfold dispatchNext
        split <;> rfl
      · simp [activatesClient, point]
      · rfl
      · unfold dispatchNext
        split <;> simp [record, goto, dispatchLine, point]
  | requestStop point free => exact holding_requestStop
  | accepts listener fd ready point listening unused =>
      refine h.moves rfl (record_released_other rfl rfl) (by simp [point]) (by simp [point]) ?_
      simp [record]
  | receives fd generation ready connection chunk point client =>
      refine h.moves rfl (record_released_other rfl rfl) (by simp [point]) (by simp [point]) ?_
      simp [record]
  | _ => cases hthread

theorem Holding.step (h : s.Holding) (hisolation : Isolation json s.transport) {input : IPCInput}
    (hstep : s.transport.step json input = some t) : (s.record input t).Holding := by
  cases hmain : input.ofMainThread with
  | true => exact h.main hisolation hmain hstep
  | false => exact h.thread hisolation hmain hstep

/-- What one step needs and keeps. -/
structure Serving (json : JSONCodec) (s : ServedClients) : Prop where
  isolation : Isolation json s.transport
  admitted : s.Admitted
  holding : s.Holding

theorem serving_start (json : JSONCodec) (listenerFd : Nat) (path : String) :
    Serving json (start listenerFd path) where
  isolation := Isolation.start json listenerFd path
  admitted := ⟨rfl, rfl⟩
  holding := ⟨fun _ fd hfd => (by cases hfd), fun hheld => (by cases hheld), fun _ => rfl⟩

/-- What the clients do is nothing the transport has to decide about yet. -/
theorem Serving.clients (h : Serving json s) (connectedCount : Nat) (clientOpen : Bool) :
    Serving json { s with connectedCount, clientOpen } where
  isolation := h.isolation
  admitted := ⟨h.admitted.activated, h.admitted.notExtra⟩
  holding := ⟨h.holding.released, h.holding.held, h.holding.dropping⟩

theorem Admitted.quiet (h : s.Admitted) (hquiet : Quiet s.transport t) (input : IPCInput) :
    (s.record input t).Admitted where
  activated := by
    show activations t.log = List.range t.decidedCount
    rw [hquiet.activations, hquiet.decidedCount]
    exact h.activated
  notExtra := hquiet.turnsAway h.notExtra

theorem Admitted.accept {fd : Nat} (h : s.Admitted)
    (hstep : s.transport.step json (.accept (some fd)) = some t) :
    (s.record (.accept (some fd)) t).Admitted := by
  cases IPCStep.of_step hstep with
  | moves _ _ moves => cases moves
  | accepts listener fd ready point listening unused =>
      have hactivated := h.activated
      rw [decidedCount, point] at hactivated
      exact ⟨(activations_neutral rfl).trans hactivated, rfl⟩

/-- The section after `accept` admits the connection exactly when there is no client. -/
theorem Serving.activate_iff (h : Serving json s) {fd : Nat} {ready : Option Nat}
    (hthread : s.transport.ipcThread = .activate fd ready) :
    (s.record .runLoop (s.transport.activate fd ready)).Admitted ↔
      s.transport.activeClientFd = none := by
  obtain ⟨-, c, hfd, hnew⟩ : PointOK s.transport (.activate fd ready) :=
    hthread ▸ h.isolation.point
  have hactivated := h.admitted.activated
  rw [decidedCount, hthread] at hactivated
  simp only [RunLoopPoint.isActivate, if_true] at hactivated
  rw [hactivated, List.mem_range] at hnew
  have hnumbered := h.isolation.numbered hfd
  have hlast : c + 1 = s.transport.acceptedCount := by omega
  unfold record activate
  cases hactive : s.transport.activeClientFd with
  | none =>
      simp only [iff_true]
      refine ⟨?_, rfl⟩
      simp only [connectionAt, hfd, Option.map_some, Option.toList_some, activations_activated]
      rw [hactivated, ← hlast, Nat.add_sub_cancel, decidedCount]
      simp only [RunLoopPoint.isActivate, Bool.false_eq_true, if_false]
      exact List.range_succ.symm
  | some fd' =>
      simp only [reduceCtorEq, iff_false]
      intro hextra
      cases hextra.notExtra

/-- There is no client when a connection is decided about exactly if the last one was released. -/
theorem Serving.released_iff (h : Serving json s) {fd : Nat} {ready : Option Nat}
    (hthread : s.transport.ipcThread = .activate fd ready) :
    s.transport.activeClientFd = none ↔ s.released = true := by
  constructor
  · intro hnone
    by_contra hheld
    have hclient := h.holding.held (by simpa using hheld)
    simp [hnone, hthread] at hclient
  · intro hreleased
    by_contra hclient
    obtain ⟨fd', hfd'⟩ := Option.ne_none_iff_exists'.mp hclient
    have hdropping := h.holding.released hreleased fd' hfd'
    simp [hthread] at hdropping

theorem step_call {input : IPCInput} (haccept : ∀ fd, input ≠ .accept (some fd)) :
    s.step json (.call input) = (s.transport.step json input).map (s.record input) := by
  unfold step
  split <;> simp_all

theorem noticed_call {input : IPCInput}
    (hdecide : input = .runLoop → s.transport.ipcThread.isActivate = false) :
    s.Noticed (.call input) := by
  unfold Noticed
  split
  · split
    · rename_i hinput _ fd ready hthread
      obtain rfl := ClientInput.call.inj hinput
      have hother := hdecide rfl
      simp [hthread, RunLoopPoint.isActivate] at hother
    · trivial
  · trivial

/-- The section after `accept` admits the connection exactly when the end of the one before it has
been noticed. -/
theorem Serving.decide_iff (h : Serving json s) {fd : Nat} {ready : Option Nat}
    (hthread : s.transport.ipcThread = .activate fd ready)
    (hstep : s.transport.runLoop json = some t) :
    (s.record .runLoop t).Admitted ↔ s.Noticed (.call .runLoop) := by
  simp only [runLoop, hthread] at hstep
  obtain ⟨-, rfl⟩ := locked_eq_some.mp hstep
  rw [h.activate_iff hthread, h.released_iff hthread]
  simp only [Noticed, hthread]

/-- A step of the transport, once it is known whether it admits who it should. -/
theorem Serving.call {input : IPCInput} (h : Serving json s)
    (hstep : s.transport.step json input = some t)
    (hiff : (s.record input t).Admitted ↔ s.Noticed (.call input)) :
    ((s.record input t).Admitted ↔ s.Noticed (.call input)) ∧
      (s.Noticed (.call input) → Serving json (s.record input t)) := by
  refine ⟨hiff, fun hnoticed => ?_⟩
  exact ⟨h.isolation.step hstep, hiff.mpr hnoticed, h.holding.step h.isolation hstep⟩

theorem Serving.step {input : ClientInput} {next : ServedClients} (h : Serving json s)
    (hstep : s.step json input = some next) :
    (next.Admitted ↔ s.Noticed input) ∧ (s.Noticed input → Serving json next) := by
  cases input with
  | connect =>
      simp only [ServedClients.step] at hstep
      split at hstep
      · cases hstep
      · obtain rfl := Option.some.inj hstep
        have hnext := h.clients (s.connectedCount + 1) true
        exact ⟨iff_of_true hnext.admitted trivial, fun _ => hnext⟩
  | hangUp =>
      simp only [ServedClients.step] at hstep
      split at hstep
      · obtain rfl := Option.some.inj hstep
        have hnext := h.clients s.connectedCount false
        exact ⟨iff_of_true hnext.admitted trivial, fun _ => hnext⟩
      · cases hstep
  | call input =>
      by_cases haccept : ∃ fd, input = .accept (some fd)
      · obtain ⟨fd, rfl⟩ := haccept
        simp only [ServedClients.step] at hstep
        split at hstep
        · obtain ⟨t, ht, rfl⟩ := Option.map_eq_some_iff.mp hstep
          replace ht : s.transport.step json (.accept (some fd)) = some t := ht
          exact h.call ht (iff_of_true (h.admitted.accept ht) trivial)
        · cases hstep
      · have hother : ∀ fd, input ≠ .accept (some fd) := fun fd heq => haccept ⟨fd, heq⟩
        rw [step_call hother] at hstep
        obtain ⟨t, ht, rfl⟩ := Option.map_eq_some_iff.mp hstep
        apply h.call ht
        by_cases hdecide : input = .runLoop → s.transport.ipcThread.isActivate = false
        · have hquiet := Quiet.step ht hdecide hother
          exact iff_of_true (h.admitted.quiet hquiet input) (noticed_call hdecide)
        · obtain ⟨rfl, hpoint⟩ := Classical.not_imp.mp hdecide
          obtain ⟨fd, ready, hthread⟩ : ∃ fd ready,
              s.transport.ipcThread = .activate fd ready := by
            unfold RunLoopPoint.isActivate at hpoint
            split at hpoint
            · exact ⟨_, _, by assumption⟩
            · contradiction
          exact h.decide_iff hthread ht

end ServedClients

/-- While each client closes its connection before the next one connects, every connection becomes
the active client in its turn exactly when, before `RunLoop` decides about a connection, `recv` has
returned the end of the one before it or the main thread has closed that one. -/
theorem reconnection_admitted_iff {json : JSONCodec} {listenerFd : Nat} {path : String}
    {inputs : List ClientInput} {s : ServedClients} :
    Exec (Through (Step (ServedClients.step json)) ServedClients.Admitted)
        (ServedClients.start listenerFd path) inputs s ↔
      Exec (Guarded (Step (ServedClients.step json)) ServedClients.Noticed)
        (ServedClients.start listenerFd path) inputs s := by
  apply Exec.through_iff_guarded (J := ServedClients.Serving json)
  · intro s input next hs hstep
    exact hs.step hstep
  · exact ServedClients.serving_start json listenerFd path

/-- The active client closes its connection and the next one connects between two `poll` calls, the
second of which reports both. -/
def reconnecting : List ClientInput :=
  [.connect, .call .runLoop, .call .runLoop, .call (.poll (some (true, false))),
    .call (.accept (some 4)), .call .runLoop, .call .runLoop, .call .runLoop, .call .runLoop,
    .hangUp, .connect, .call (.poll (some (true, true))), .call (.accept (some 5)),
    .call .runLoop]

/-- The only client there is gets turned away. -/
theorem reconnecting_turnedAway :
    ∃ s, Exec (Step (ServedClients.step emptyObjectJSON))
        (ServedClients.start 3 "/run/browserd.sock") reconnecting s ∧
      s.clientOpen = true ∧ s.hungUp 0 = true ∧ ¬ s.Admitted := by
  have hend : ((reconnecting.foldlM (ServedClients.step emptyObjectJSON)
      (ServedClients.start 3 "/run/browserd.sock")).map fun s =>
        (s.clientOpen, s.hungUp 0, s.transport.ipcThread.turnsAway)) =
          some (true, true, true) := by
    decide +kernel
  obtain ⟨s, hrun, hs⟩ := Exec.exists_of_foldlM hend
  simp only [Prod.mk.injEq] at hs
  obtain ⟨hopen, hgone, hextra⟩ := hs
  refine ⟨s, hrun, hopen, hgone, fun hadmitted => ?_⟩
  simp [hadmitted.notExtra] at hextra

/-- The active client closes its connection, `RunLoop` reads the end of its stream, and the next
client connects. -/
def noticedInTime : List ClientInput :=
  [.connect, .call .runLoop, .call .runLoop, .call (.poll (some (true, false))),
    .call (.accept (some 4)), .call .runLoop, .call .runLoop, .hangUp, .call .runLoop,
    .call .runLoop, .call (.poll (some (false, true))), .call .runLoop, .call (.recv none),
    .connect, .call .runLoop, .call .runLoop, .call .runLoop, .call (.poll (some (true, false))),
    .call (.accept (some 4)), .call .runLoop]

theorem reconnection_admitted_sample :
    ∃ s, Exec (Through (Step (ServedClients.step emptyObjectJSON)) ServedClients.Admitted)
        (ServedClients.start 3 "/run/browserd.sock") noticedInTime s ∧
      s.hungUp 0 = true ∧ s.hungUp 1 = false ∧
        s.transport.activeClientFd.bind (fun fd => s.transport.connectionAt fd) = some 1 := by
  have hend : ((noticedInTime.foldlM
      (fun (s : ServedClients) input =>
        if !s.transport.ipcThread.isActivate || s.released then s.step emptyObjectJSON input
        else none)
      (ServedClients.start 3 "/run/browserd.sock")).map fun s =>
        (s.hungUp 0, s.hungUp 1,
          s.transport.activeClientFd.bind fun fd => s.transport.connectionAt fd)) =
          some (true, false, some 1) := by
    decide +kernel
  obtain ⟨s, hrun, hs⟩ := Exec.exists_guarded_of_foldlM hend
  simp only [Prod.mk.injEq] at hs
  refine ⟨s, reconnection_admitted_iff.mpr (hrun.mono ?_), hs⟩
  rintro s input t ⟨hstep, hreleased⟩
  refine ⟨hstep, ?_⟩
  unfold ServedClients.Noticed
  split
  · split
    · rename_i hthread
      simpa [hthread, RunLoopPoint.isActivate] using hreleased
    · trivial
  · trivial

end Browserd.Posix
