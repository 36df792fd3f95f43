import Browserd.MCP.ClientIsolation

/-!
# The descriptors of the IPC transport

Every descriptor that is open belongs to `listener_fd_`, to `active_client_fd_` or to the section
of the IPC thread that accepts a client, and whoever closes it forgets it in the same critical
section.
-/

namespace Browserd.Posix

open Transition

/-- The `close` calls that have closed this socket. -/
def closes (socket : Socket) (log : List IPCEvent) : Nat :=
  log.countP fun
    | .closed other => other = socket
    | _ => false

def unlinks (log : List IPCEvent) : Nat :=
  log.countP fun
    | .unlinked _ => true
    | _ => false

/-- The IPC thread is between `accept` and the decision about the descriptor it returned. -/
def RunLoopPoint.Accepting (fd : Nat) : RunLoopPoint → Prop
  | .activate acceptedFd _ => acceptedFd = fd
  | .closeExtraClient acceptedFd _ => acceptedFd = fd
  | _ => False

section Counts

variable {log : List IPCEvent} {socket : Socket}

theorem closes_closed (other : Socket) :
    closes socket (log ++ [.closed other]) =
      closes socket log + if other = socket then 1 else 0 := by
  by_cases h : other = socket <;> simp [closes, h]

theorem closes_other {events : List IPCEvent} (h : ∀ other, .closed other ∉ events) :
    closes socket (log ++ events) = closes socket log := by
  unfold closes
  rw [List.countP_append, Nat.add_eq_left, List.countP_eq_zero]
  intro event hevent
  cases event with
  | closed other => exact absurd hevent (h other)
  | _ => simp

theorem unlinks_other {events : List IPCEvent} (h : ∀ path, .unlinked path ∉ events) :
    unlinks (log ++ events) = unlinks log := by
  unfold unlinks
  rw [List.countP_append, Nat.add_eq_left, List.countP_eq_zero]
  intro event hevent
  cases event with
  | unlinked path => exact absurd hevent (h path)
  | _ => simp

theorem unlinks_unlinked (path : String) : unlinks (log ++ [.unlinked path]) = unlinks log + 1 := by
  simp [unlinks]

end Counts

namespace MCPIPCTransport

variable (s : MCPIPCTransport)

@[simp] theorem closeActiveClient_ipcThread : s.closeActiveClient.ipcThread = s.ipcThread := by
  unfold closeActiveClient
  split <;> rfl

@[simp] theorem closeListener_ipcThread : s.closeListener.ipcThread = s.ipcThread := by
  unfold closeListener
  split <;> rfl

@[simp] theorem unlinkBoundPath_ipcThread : s.unlinkBoundPath.ipcThread = s.ipcThread := by
  unfold unlinkBoundPath
  split <;> rfl

@[simp] theorem closeActiveClient_activeClientFd : s.closeActiveClient.activeClientFd = none := by
  unfold closeActiveClient
  split
  · assumption
  · rfl

@[simp] theorem closeListener_activeClientFd :
    s.closeListener.activeClientFd = s.activeClientFd := by
  unfold closeListener
  split <;> rfl

@[simp] theorem unlinkBoundPath_activeClientFd :
    s.unlinkBoundPath.activeClientFd = s.activeClientFd := by
  unfold unlinkBoundPath
  split <;> rfl

@[simp] theorem closeListener_listenerFd : s.closeListener.listenerFd = none := by
  unfold closeListener
  split
  · assumption
  · rfl

@[simp] theorem unlinkBoundPath_listenerFd : s.unlinkBoundPath.listenerFd = s.listenerFd := by
  unfold unlinkBoundPath
  split <;> rfl

@[simp] theorem unlinkBoundPath_boundSocketPath :
    s.unlinkBoundPath.boundSocketPath.isEmpty = true := by
  unfold unlinkBoundPath
  split
  · assumption
  · rfl

end MCPIPCTransport

/-- The listener, and the connections that `accept` has returned. -/
def MCPIPCTransport.Opened (s : MCPIPCTransport) : Socket → Prop
  | .listener => True
  | .connection number => number < s.acceptedCount

/-- Who the open descriptors belong to, and how often the others have been closed. -/
structure Descriptors (s : MCPIPCTransport) : Prop where
  connection {fd c : Nat} : s.fds fd = some (.connection c) →
    s.activeClientFd = some fd ∨ s.ipcThread.Accepting fd
  listener {fd : Nat} : s.fds fd = some .listener → s.listenerFd = some fd
  isOpen {fd : Nat} {socket : Socket} : s.fds fd = some socket →
    s.Opened socket ∧ closes socket s.log = 0
  isClosed {socket : Socket} : s.Opened socket → (∀ fd, s.fds fd ≠ some socket) →
    closes socket s.log = 1
  unopened {socket : Socket} : ¬ s.Opened socket → closes socket s.log = 0
  unique {fd fd' : Nat} {socket : Socket} : s.fds fd = some socket → s.fds fd' = some socket →
    fd' = fd
  returned : s.ipcThread = .returned →
    s.activeClientFd = none ∧ s.listenerFd = none ∧ s.boundSocketPath.isEmpty = true
  path : unlinks s.log + (if s.boundSocketPath.isEmpty then 0 else 1) ≤ 1

namespace Descriptors

open MCPIPCTransport

variable {json : JSONCodec} {s t : MCPIPCTransport}

theorem start (listenerFd : Nat) (path : String) :
    Descriptors (MCPIPCTransport.start listenerFd path) := by
  have hfds (fd : Nat) (socket : Socket)
      (hfd : (MCPIPCTransport.start listenerFd path).fds fd = some socket) :
      fd = listenerFd ∧ socket = .listener := by
    by_cases heq : fd = listenerFd
    · subst heq
      have hsocket : some Socket.listener = some socket := by
        simpa [MCPIPCTransport.start] using hfd
      exact ⟨rfl, (Option.some.inj hsocket).symm⟩
    · simp [MCPIPCTransport.start, heq] at hfd
  constructor
  case connection =>
    intro fd c hfd
    cases (hfds fd _ hfd).2
  case listener =>
    intro fd hfd
    rw [(hfds fd _ hfd).1]
    rfl
  case isOpen =>
    intro fd socket hfd
    rw [(hfds fd _ hfd).2]
    exact ⟨trivial, rfl⟩
  case isClosed =>
    intro socket hopened hnone
    cases socket with
    | listener => exact absurd (by simp [MCPIPCTransport.start]) (hnone listenerFd)
    | connection number => exact absurd hopened (Nat.not_lt_zero number)
  case unopened => exact fun _ => rfl
  case unique =>
    intro fd fd' socket hfd hfd'
    rw [(hfds fd _ hfd).1, (hfds fd' _ hfd').1]
  case returned => simp [MCPIPCTransport.start]
  case path =>
    change 0 + (if path.isEmpty then 0 else 1) ≤ 1
    split <;> omega

/-- A step that opens and closes nothing, and loses no descriptor it has accepted. -/
theorem move (h : Descriptors s) (hfds : t.fds = s.fds) (hcount : t.acceptedCount = s.acceptedCount)
    (hlistener : t.listenerFd = s.listenerFd) (hpath : t.boundSocketPath = s.boundSocketPath)
    {events : List IPCEvent} (hlog : t.log = s.log ++ events)
    (hclosed : ∀ socket, .closed socket ∉ events) (hunlinked : ∀ path, .unlinked path ∉ events)
    (howner : ∀ fd, s.activeClientFd = some fd ∨ s.ipcThread.Accepting fd →
      t.activeClientFd = some fd ∨ t.ipcThread.Accepting fd)
    (hreturned : t.ipcThread = .returned →
      t.activeClientFd = none ∧ t.listenerFd = none ∧ t.boundSocketPath.isEmpty = true) :
    Descriptors t := by
  have hopened (socket : Socket) : t.Opened socket ↔ s.Opened socket := by
    cases socket <;> simp [Opened, hcount]
  constructor
  case connection =>
    intro fd c hfd
    rw [hfds] at hfd
    exact howner fd (h.connection hfd)
  case listener =>
    intro fd hfd
    rw [hfds] at hfd
    rw [hlistener]
    exact h.listener hfd
  case isOpen =>
    intro fd socket hfd
    rw [hfds] at hfd
    rw [hopened, hlog, closes_other hclosed]
    exact h.isOpen hfd
  case isClosed =>
    intro socket hsocket hnone
    rw [hopened] at hsocket
    rw [hfds] at hnone
    rw [hlog, closes_other hclosed]
    exact h.isClosed hsocket hnone
  case unopened =>
    intro socket hsocket
    rw [hopened] at hsocket
    rw [hlog, closes_other hclosed]
    exact h.unopened hsocket
  case unique =>
    rw [hfds]
    exact h.unique
  case returned => exact hreturned
  case path =>
    rw [hlog, unlinks_other hunlinked, hpath]
    exact h.path

/-- A descriptor is closed and forgotten by whoever it belonged to. -/
theorem close (h : Descriptors s) {fd : Nat} {socket : Socket} (hfd : s.fds fd = some socket)
    (hfds : t.fds = Function.update s.fds fd none) (hcount : t.acceptedCount = s.acceptedCount)
    (hpath : t.boundSocketPath = s.boundSocketPath) (hlog : t.log = s.log ++ [.closed socket])
    (howner : ∀ fd', fd' ≠ fd → s.activeClientFd = some fd' ∨ s.ipcThread.Accepting fd' →
      t.activeClientFd = some fd' ∨ t.ipcThread.Accepting fd')
    (hlistener : ∀ fd', fd' ≠ fd → s.listenerFd = some fd' → t.listenerFd = some fd')
    (hreturned : t.ipcThread = .returned →
      t.activeClientFd = none ∧ t.listenerFd = none ∧ t.boundSocketPath.isEmpty = true) :
    Descriptors t := by
  have hopened (other : Socket) : t.Opened other ↔ s.Opened other := by
    cases other <;> simp [Opened, hcount]
  have hkept (fd' : Nat) (other : Socket) (hfd' : t.fds fd' = some other) :
      fd' ≠ fd ∧ s.fds fd' = some other := by
    rw [hfds] at hfd'
    by_cases heq : fd' = fd
    · simp [heq] at hfd'
    · rw [Function.update_of_ne heq] at hfd'
      exact ⟨heq, hfd'⟩
  have hother (fd' : Nat) (other : Socket) (hfd' : t.fds fd' = some other) : socket ≠ other := by
    obtain ⟨hne, hfd'⟩ := hkept fd' other hfd'
    intro heq
    subst heq
    exact hne (h.unique hfd hfd')
  constructor
  case connection =>
    intro fd' c hfd'
    obtain ⟨hne, hfd'⟩ := hkept fd' _ hfd'
    exact howner fd' hne (h.connection hfd')
  case listener =>
    intro fd' hfd'
    obtain ⟨hne, hfd'⟩ := hkept fd' _ hfd'
    exact hlistener fd' hne (h.listener hfd')
  case isOpen =>
    intro fd' other hfd'
    rw [hopened, hlog, closes_closed, if_neg (hother fd' other hfd')]
    exact h.isOpen (hkept fd' other hfd').2
  case isClosed =>
    intro other hother' hnone
    rw [hopened] at hother'
    rw [hlog, closes_closed]
    by_cases heq : socket = other
    · rw [if_pos heq, ← heq, (h.isOpen hfd).2]
    · rw [if_neg heq]
      apply h.isClosed hother'
      intro fd' hfd'
      apply hnone fd'
      rw [hfds, Function.update_of_ne _]
      · exact hfd'
      · intro hsame
        rw [hsame, hfd] at hfd'
        exact heq (Option.some.inj hfd')
  case unopened =>
    intro other hother'
    rw [hopened] at hother'
    have hne : socket ≠ other := by
      intro heq
      exact hother' (heq ▸ (h.isOpen hfd).1)
    rw [hlog, closes_closed, if_neg hne]
    exact h.unopened hother'
  case unique =>
    intro fd' fd'' other hfd' hfd''
    exact h.unique (hkept fd' other hfd').2 (hkept fd'' other hfd'').2
  case returned => exact hreturned
  case path =>
    rw [hlog, unlinks_other (by simp), hpath]
    exact h.path

/-- A step that records nothing and changes no descriptor. -/
theorem keep (h : Descriptors s) (hfds : t.fds = s.fds) (hcount : t.acceptedCount = s.acceptedCount)
    (hactive : t.activeClientFd = s.activeClientFd) (hlistener : t.listenerFd = s.listenerFd)
    (hpath : t.boundSocketPath = s.boundSocketPath) (hlog : t.log = s.log)
    (haccepting : ∀ fd, s.ipcThread.Accepting fd → t.ipcThread.Accepting fd)
    (hreturned : t.ipcThread = .returned → s.ipcThread = .returned) : Descriptors t := by
  apply @move s t h hfds hcount hlistener hpath [] (by rw [hlog, List.append_nil]) (by simp)
    (by simp)
  · intro fd howner
    rw [hactive]
    exact howner.imp_right (haccepting fd)
  · intro hthread
    rw [hactive, hlistener, hpath]
    exact h.returned (hreturned hthread)

/-- The IPC thread moves on without touching anything. -/
theorem goto (h : Descriptors s) (point : RunLoopPoint)
    (haccepting : ∀ fd, s.ipcThread.Accepting fd → point.Accepting fd)
    (hpoint : point ≠ .returned) : Descriptors (s.goto point) :=
  h.keep rfl rfl rfl rfl rfl rfl haccepting fun hthread => absurd hthread hpoint

/-- `accept` returns a descriptor that was not in use. -/
private theorem update_eq_some {fd fd' : Nat} {socket socket' : Socket}
    (h : Function.update s.fds fd (some socket) fd' = some socket') :
    fd' = fd ∧ socket' = socket ∨ fd' ≠ fd ∧ s.fds fd' = some socket' := by
  by_cases heq : fd' = fd
  · subst heq
    rw [Function.update_self] at h
    exact .inl ⟨rfl, (Option.some.inj h).symm⟩
  · rw [Function.update_of_ne heq] at h
    exact .inr ⟨heq, h⟩

private theorem opened_succ (hcount : t.acceptedCount = s.acceptedCount + 1) (socket : Socket) :
    t.Opened socket ↔ s.Opened socket ∨ socket = .connection s.acceptedCount := by
  cases socket with
  | listener => simp [Opened]
  | connection number =>
      simp only [Opened, hcount, Socket.connection.injEq]
      exact Nat.lt_succ_iff_lt_or_eq

/-- A connection that `accept` has returned belongs to the section that has accepted it. -/
theorem accepted {fd : Nat} {ready : Option Nat} (h : Descriptors s)
    (hisolation : Isolation json s) (haccepting : ∀ fd, ¬ s.ipcThread.Accepting fd)
    (hfree : s.fds fd = none) :
    Descriptors
      { s with
        fds := Function.update s.fds fd (some (.connection s.acceptedCount))
        acceptedCount := s.acceptedCount + 1
        ipcThread := .activate fd ready
        log := s.log ++ [.accepted s.acceptedCount] } := by
  have hcloses (socket : Socket) :
      closes socket (s.log ++ [.accepted s.acceptedCount]) = closes socket s.log :=
    closes_other (by simp)
  have hnew : ∀ fd', s.fds fd' ≠ some (.connection s.acceptedCount) := by
    intro fd' hfd'
    exact absurd (hisolation.numbered hfd') (Nat.lt_irrefl _)
  have hunopened : ¬ s.Opened (.connection s.acceptedCount) := Nat.lt_irrefl _
  constructor
  case connection =>
    intro fd' c hfd'
    rcases update_eq_some hfd' with ⟨heq, -⟩ | ⟨-, hfd'⟩
    · exact .inr heq.symm
    · exact .inl ((h.connection hfd').resolve_right (haccepting fd'))
  case listener =>
    intro fd' hfd'
    rcases update_eq_some hfd' with ⟨-, heq⟩ | ⟨-, hfd'⟩
    · cases heq
    · exact h.listener hfd'
  case isOpen =>
    intro fd' socket hfd'
    rw [opened_succ rfl, hcloses]
    rcases update_eq_some hfd' with ⟨-, rfl⟩ | ⟨-, hfd'⟩
    · exact ⟨.inr rfl, h.unopened hunopened⟩
    · exact (h.isOpen hfd').imp_left .inl
  case isClosed =>
    intro socket hsocket hnone
    rw [opened_succ rfl] at hsocket
    rw [hcloses]
    rcases hsocket with hsocket | rfl
    · apply h.isClosed hsocket
      intro fd' hfd'
      have hne : fd' ≠ fd := by
        intro heq
        rw [heq, hfree] at hfd'
        cases hfd'
      exact hnone fd' ((Function.update_of_ne hne _ _).trans hfd')
    · exact absurd (Function.update_self ..) (hnone fd)
  case unopened =>
    intro socket hsocket
    rw [opened_succ rfl, not_or] at hsocket
    rw [hcloses]
    exact h.unopened hsocket.1
  case unique =>
    intro fd' fd'' socket hfd' hfd''
    rcases update_eq_some hfd' with ⟨rfl, rfl⟩ | ⟨-, hold⟩
    · rcases update_eq_some hfd'' with ⟨rfl, -⟩ | ⟨-, hold⟩
      · rfl
      · exact absurd hold (hnew fd'')
    · rcases update_eq_some hfd'' with ⟨rfl, rfl⟩ | ⟨-, hold'⟩
      · exact absurd hold (hnew fd')
      · exact h.unique hold hold'
  case returned => simp
  case path =>
    rw [unlinks_other (by simp)]
    exact h.path

theorem closeActiveClient (h : Descriptors s) (hisolation : Isolation json s) :
    Descriptors s.closeActiveClient := by
  unfold MCPIPCTransport.closeActiveClient
  cases hactive : s.activeClientFd with
  | none => exact h
  | some fd =>
      obtain ⟨c, hfd, -⟩ := hisolation.client hactive
      refine h.close hfd rfl rfl rfl (by simp [closeDescriptor, hfd]) ?_ ?_ ?_
      · intro fd' hne howner
        rw [hactive] at howner
        exact .inr (howner.resolve_left (by simpa using Ne.symm hne))
      · exact fun _ _ hlistener => hlistener
      · intro hthread
        have hnone := (h.returned hthread).1
        rw [hactive] at hnone
        cases hnone

theorem closeListener (h : Descriptors s) (hisolation : Isolation json s) :
    Descriptors s.closeListener := by
  unfold MCPIPCTransport.closeListener
  cases hlistener : s.listenerFd with
  | none => exact h
  | some fd =>
      have hfd := hisolation.listener hlistener
      refine h.close hfd rfl rfl rfl (by simp [closeDescriptor, hfd]) ?_ ?_ ?_
      · exact fun _ _ howner => howner
      · intro fd' hne hfd'
        rw [hlistener] at hfd'
        exact absurd (Option.some.inj hfd').symm hne
      · intro hthread
        have hnone := (h.returned hthread).2.1
        rw [hlistener] at hnone
        cases hnone

theorem unlinkBoundPath (h : Descriptors s) : Descriptors s.unlinkBoundPath := by
  unfold MCPIPCTransport.unlinkBoundPath
  split
  · exact h
  · rename_i hbound
    have hcloses (socket : Socket) :
        closes socket (s.log ++ [.unlinked s.boundSocketPath]) = closes socket s.log :=
      closes_other (by simp)
    have hpath := h.path
    rw [if_neg hbound] at hpath
    constructor
    case connection => exact h.connection
    case listener => exact h.listener
    case isOpen =>
      intro fd socket hfd
      simp only [hcloses]
      exact h.isOpen hfd
    case isClosed =>
      intro socket hsocket hnone
      simp only [hcloses]
      exact h.isClosed hsocket hnone
    case unopened =>
      intro socket hsocket
      simp only [hcloses]
      exact h.unopened hsocket
    case unique => exact h.unique
    case returned =>
      intro hthread
      exact absurd (h.returned hthread).2.2 hbound
    case path =>
      simp only [unlinks_unlinked]
      simpa using hpath

theorem activate {fd : Nat} {ready : Option Nat} (h : Descriptors s)
    (hthread : s.ipcThread = .activate fd ready) : Descriptors (s.activate fd ready) := by
  unfold MCPIPCTransport.activate
  cases hactive : s.activeClientFd with
  | some _ =>
      apply h.goto
      · simp [hthread, RunLoopPoint.Accepting]
      · simp
  | none =>
      refine h.move rfl rfl rfl rfl rfl ?_ ?_ ?_ ?_
      · intro socket hmem
        simp at hmem
      · intro path hmem
        simp at hmem
      · intro fd' howner
        rw [hactive, hthread] at howner
        simp only [RunLoopPoint.Accepting, reduceCtorEq, false_or] at howner
        exact .inl (by rw [howner])
      · simp

theorem dropClient {fd : Nat} (h : Descriptors s) (hisolation : Isolation json s)
    (hthread : s.ipcThread = .dropClient fd) : Descriptors (s.dropClient fd) := by
  have hcleared (t : MCPIPCTransport) (ht : Descriptors t) (hsame : t.ipcThread = s.ipcThread) :
      Descriptors { t with buffer := [], ipcThread := .isStopping } := by
    refine ht.keep rfl rfl rfl rfl rfl rfl ?_ ?_
    · simp [hsame, hthread, RunLoopPoint.Accepting]
    · simp
  unfold MCPIPCTransport.dropClient
  split
  · apply hcleared _ (h.closeActiveClient hisolation)
    unfold MCPIPCTransport.closeActiveClient
    split <;> rfl
  · exact hcleared s h rfl

theorem dispatchNext {generation : UInt64} (h : Descriptors s)
    (hthread : s.ipcThread = .dispatch generation) :
    Descriptors (s.dispatchNext json generation) := by
  unfold MCPIPCTransport.dispatchNext
  split
  · apply h.goto
    · simp [hthread, RunLoopPoint.Accepting]
    · simp
  · refine h.move rfl rfl rfl rfl rfl ?_ ?_ ?_ ?_
    · simp
    · simp
    · exact fun _ howner => howner
    · simp [dispatchLine, hthread]

theorem closeExtraClient {fd : Nat} {ready : Option Nat} (h : Descriptors s)
    (hisolation : Isolation json s) (hthread : s.ipcThread = .closeExtraClient fd ready) :
    Descriptors ((s.closeDescriptor fd).goto (.resnapshot ready)) := by
  have hpoint := hisolation.point
  rw [hthread] at hpoint
  obtain ⟨-, c, hfd⟩ := hpoint
  refine h.close hfd rfl rfl rfl (by simp [closeDescriptor, MCPIPCTransport.goto, hfd]) ?_ ?_ ?_
  · intro fd' hne howner
    rw [hthread] at howner
    rcases howner with hactive | haccepting
    · exact .inl hactive
    · exact absurd haccepting.symm hne
  · exact fun _ _ hlistener => hlistener
  · simp [MCPIPCTransport.goto]

/-- `RunLoop` ends with everything closed. -/
theorem requestStop (h : Descriptors s) (hisolation : Isolation json s)
    (hthread : s.ipcThread = .requestStop) :
    Descriptors (s.requestStopLocked.goto .returned) := by
  have hclosed : Descriptors s.requestStopLocked :=
    ((h.closeActiveClient hisolation).closeListener hisolation.closeActiveClient).unlinkBoundPath
  have hactive : s.requestStopLocked.activeClientFd = none := by simp [requestStopLocked]
  have hlistener : s.requestStopLocked.listenerFd = none := by simp [requestStopLocked]
  have hpath : s.requestStopLocked.boundSocketPath.isEmpty = true := by
    simp [requestStopLocked]
  have hlog : (s.requestStopLocked.goto .returned).log = s.requestStopLocked.log ++ [] := by
    simp [MCPIPCTransport.goto]
  refine hclosed.move rfl rfl rfl rfl hlog ?_ ?_ ?_ ?_
  · simp
  · simp
  · intro fd howner
    simp [requestStopLocked, hthread, RunLoopPoint.Accepting] at howner
  · exact fun _ => ⟨hactive, hlistener, hpath⟩

theorem moves {input : IPCInput} {point : RunLoopPoint} (h : Descriptors s)
    (hmoves : ThreadMoves s input point) : Descriptors (s.goto point) := by
  apply h.goto point
  · cases hmoves <;> simp [*, RunLoopPoint.Accepting]
  · cases hmoves <;> simp

theorem receives {fd c ready : Nat} {generation : UInt64} {chunk : Chunk} (h : Descriptors s)
    (hthread : s.ipcThread = .recv fd generation ready) :
    Descriptors
      { s with
        buffer := s.buffer ++ chunk.bytes
        ipcThread := .dispatch generation
        log := s.log ++ [.received c chunk.bytes] } := by
  refine h.move rfl rfl rfl rfl rfl ?_ ?_ ?_ ?_
  · simp
  · simp
  · intro fd howner
    simpa [hthread, RunLoopPoint.Accepting] using howner
  · simp

theorem wrote {c : Nat} {request : Request} {bytes : List UInt8} (h : Descriptors s) :
    Descriptors { s with log := s.log ++ [.wrote c request bytes] } := by
  refine h.move rfl rfl rfl rfl rfl ?_ ?_ ?_ ?_
  · simp
  · simp
  · exact fun _ howner => howner
  · exact h.returned

/-- The steps of the main thread that open and close nothing. -/
theorem mainMoves (h : Descriptors s) (hfds : t.fds = s.fds)
    (hcount : t.acceptedCount = s.acceptedCount) (hactive : t.activeClientFd = s.activeClientFd)
    (hlistener : t.listenerFd = s.listenerFd) (hpath : t.boundSocketPath = s.boundSocketPath)
    (hlog : t.log = s.log) (hthread : t.ipcThread = s.ipcThread) : Descriptors t :=
  h.keep hfds hcount hactive hlistener hpath hlog (fun _ haccepting => hthread ▸ haccepting)
    fun hreturned => hthread ▸ hreturned

theorem mainGoto (h : Descriptors s) (point : MainPoint) : Descriptors (s.mainGoto point) :=
  h.mainMoves rfl rfl rfl rfl rfl rfl rfl

theorem step {input : IPCInput} (h : Descriptors s) (hisolation : Isolation json s)
    (hstep : MCPIPCTransport.step json s input = some t) : Descriptors t := by
  cases IPCStep.of_step hstep with
  | moves input point moves => exact h.moves moves
  | activate fd ready point free => exact h.activate point
  | closeExtraClient fd ready point => exact h.closeExtraClient hisolation point
  | dropClient fd point free => exact h.dropClient hisolation point
  | dispatchNext generation point => exact h.dispatchNext point
  | requestStop point free => exact h.requestStop hisolation point
  | accepts listener fd ready point listening unused =>
      exact h.accepted hisolation (by simp [point, RunLoopPoint.Accepting]) unused
  | receives fd generation ready connection chunk point client => exact h.receives point
  | takes index response request idle posted dropped =>
      exact h.mainMoves rfl rfl rfl rfl rfl rfl rfl
  | responds index response request serialized idle posted active generation text =>
      exact h.mainMoves rfl rfl rfl rfl rfl rfl rfl
  | writes request remaining fd connection count sending active client bound =>
      exact h.wrote.mainGoto _
  | retries request remaining fd sending active => exact h
  | sendFails request remaining fd sending active =>
      exact (h.mainGoto .idle).closeActiveClient (hisolation.mainGoto .idle (by simp))
  | destroy idle => exact h.mainMoves rfl rfl rfl rfl rfl rfl rfl
  | closesClient point =>
      exact (h.mainGoto .closingListener).closeActiveClient
        (hisolation.mainGoto .closingListener (by simp))
  | closesListener point =>
      exact (h.mainGoto .unlinking).closeListener (hisolation.mainGoto .unlinking (by simp))
  | unlinks point => exact (h.mainGoto .stopped).unlinkBoundPath

end Descriptors

end Browserd.Posix
