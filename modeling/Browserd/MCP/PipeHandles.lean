import Browserd.MCP.ClientIsolation
import Browserd.MCP.NamedPipe

/-!
# The handles of the Windows IPC transport

`RunLoop` closes each pipe it has created once, whether or not `active_client_handle_` still names
it. A pipe that the main thread has closed before is closed twice.
-/

namespace Browserd.Windows

open Transition

def PipeEvent.closes (pipe : Nat) : PipeEvent → Bool
  | .closed other _ => other = pipe
  | .created _ => false

def PipeEvent.closesBy (thread : IPCThread) (pipe : Nat) : PipeEvent → Bool
  | .closed other by_ => by_ = thread ∧ other = pipe
  | .created _ => false

/-- The `CloseHandle` calls on a pipe. -/
def closes (pipe : Nat) (log : List PipeEvent) : Nat := log.countP (PipeEvent.closes pipe)

def closesBy (thread : IPCThread) (pipe : Nat) (log : List PipeEvent) : Nat :=
  log.countP (PipeEvent.closesBy thread pipe)

/-- The main thread has closed a pipe. -/
def closedByMain (log : List PipeEvent) : Bool :=
  log.any fun
    | .closed _ thread => thread = .main
    | .created _ => false

/-- The local variable `pipe`. -/
def RunLoopPoint.pipe : RunLoopPoint → Option Nat
  | .activate pipe => some pipe
  | .connectNamedPipe pipe => some pipe
  | .connectFailed pipe => some pipe
  | .isStoppingClient pipe => some pipe
  | .snapshot pipe => some pipe
  | .readFile pipe _ => some pipe
  | .dispatch pipe _ => some pipe
  | .disconnect pipe => some pipe
  | _ => none

/-- A step of the main thread closes a pipe: a failing `WriteFile`, and the destructor while a pipe
is active. -/
def MCPIPCTransport.mainCloses (s : MCPIPCTransport) : IPCInput → Bool
  | .writeFile written => written.isNone
  | .destroy => s.activeClientHandle.isSome
  | _ => false

section Counts

variable {log : List PipeEvent} {pipe other : Nat} {thread by_ : IPCThread}

theorem closes_eq (pipe : Nat) (log : List PipeEvent) :
    closes pipe log = closesBy .ipc pipe log + closesBy .main pipe log := by
  induction log with
  | nil => rfl
  | cons event log ih =>
      simp only [closes, closesBy, List.countP_cons] at ih ⊢
      cases event with
      | created other => simpa [PipeEvent.closes, PipeEvent.closesBy] using ih
      | closed other thread =>
          cases thread <;> simp [PipeEvent.closes, PipeEvent.closesBy] <;> split <;> omega

@[simp] theorem closesBy_created :
    closesBy thread pipe (log ++ [.created other]) = closesBy thread pipe log := by
  simp [closesBy, PipeEvent.closesBy]

theorem closesBy_closed :
    closesBy thread pipe (log ++ [.closed other by_]) =
      closesBy thread pipe log + if by_ = thread ∧ other = pipe then 1 else 0 := by
  by_cases h : by_ = thread ∧ other = pipe <;> simp [closesBy, PipeEvent.closesBy, h]

@[simp] theorem closedByMain_created :
    closedByMain (log ++ [.created other]) = closedByMain log := by
  simp [closedByMain]

@[simp] theorem closedByMain_closed :
    closedByMain (log ++ [.closed other by_]) = (closedByMain log || decide (by_ = .main)) := by
  simp [closedByMain]

theorem closedByMain_iff :
    closedByMain log = true ↔ ∃ pipe, 0 < closesBy .main pipe log := by
  simp only [closedByMain, closesBy, List.any_eq_true, List.countP_pos_iff]
  constructor
  · intro h
    obtain ⟨event, hevent, hmain⟩ := h
    cases event with
    | created other => simp at hmain
    | closed other thread => exact ⟨other, _, hevent, by simpa [PipeEvent.closesBy] using hmain⟩
  · intro h
    obtain ⟨pipe, event, hevent, hmain⟩ := h
    cases event with
    | created other => simp [PipeEvent.closesBy] at hmain
    | closed other thread =>
        simp only [PipeEvent.closesBy, decide_eq_true_eq] at hmain
        exact ⟨_, hevent, by simp [hmain.1]⟩

end Counts

/-- Which pipe is open in which variables, how often each has been closed by whom, and that the main
thread sends to a pipe that is open. -/
structure Handles (s : MCPIPCTransport) : Prop where
  current {pipe : Nat} : s.ipcThread.pipe = some pipe → pipe + 1 = s.createdCount
  active {pipe : Nat} : s.activeClientHandle = some pipe →
    s.ipcThread.pipe = some pipe ∧ s.ipcThread ≠ .activate pipe
  ipc (pipe : Nat) : closesBy .ipc pipe s.log =
    if pipe < s.createdCount ∧ s.ipcThread.pipe ≠ some pipe then 1 else 0
  main (pipe : Nat) : closesBy .main pipe s.log = 0 ∨
    pipe < s.createdCount ∧ s.activeClientHandle ≠ some pipe ∧ s.ipcThread ≠ .activate pipe
  sending : s.mainThread.holdsLock = true → s.activeClientHandle ≠ none

namespace Handles

open MCPIPCTransport

variable {json : JSONCodec} {s t : MCPIPCTransport}

/-- Both clean-up branches close the pipe. -/
theorem closePipe_eq {pipe : Nat}
    (h : s.activeClientHandle = none ∨ s.activeClientHandle = some pipe) :
    s.closePipe pipe =
      { s with activeClientHandle := none, log := s.log ++ [.closed pipe .ipc] } := by
  rcases h with hnone | hsome
  · simp [MCPIPCTransport.closePipe, closeHandle, hnone]
  · simp [MCPIPCTransport.closePipe, MCPIPCTransport.closeActiveClient, closeHandle, hsome]

theorem locked_eq_some {next : MCPIPCTransport} :
    s.locked next = some t ↔ s.mainThread.holdsLock = false ∧ next = t := by
  unfold locked
  cases s.mainThread.holdsLock <;> simp

theorem start : Handles MCPIPCTransport.start where
  current h := by cases h
  active h := by cases h
  ipc pipe := by simp [MCPIPCTransport.start, closesBy]
  main pipe := .inl rfl
  sending h := by cases h

/-- A step that creates and closes nothing. -/
theorem keep (h : Handles s) (hcount : t.createdCount = s.createdCount)
    (hactive : t.activeClientHandle = s.activeClientHandle) (hlog : t.log = s.log)
    (hpipe : t.ipcThread.pipe = s.ipcThread.pipe)
    (hpoint : ∀ pipe, t.ipcThread = .activate pipe → s.ipcThread = .activate pipe)
    (hsending : t.mainThread.holdsLock = true → t.activeClientHandle ≠ none) : Handles t where
  current hp := by
    rw [hpipe] at hp
    rw [hcount]
    exact h.current hp
  active hp := by
    rw [hactive] at hp
    rw [hpipe]
    exact ⟨(h.active hp).1, fun hthread => (h.active hp).2 (hpoint _ hthread)⟩
  ipc pipe := by
    rw [hlog, hcount, hpipe]
    exact h.ipc pipe
  main pipe := by
    rw [hlog, hcount, hactive]
    rcases h.main pipe with hzero | ⟨hlt, hne, hthread⟩
    · exact .inl hzero
    · exact .inr ⟨hlt, hne, fun heq => hthread (hpoint pipe heq)⟩
  sending := hsending

theorem goto (h : Handles s) (point : RunLoopPoint) (hpipe : point.pipe = s.ipcThread.pipe)
    (hpoint : ∀ pipe, point ≠ .activate pipe) : Handles (s.goto point) :=
  h.keep rfl rfl rfl hpipe (fun pipe hthread => absurd hthread (hpoint pipe)) h.sending

/-- The main thread closes the pipe that is active. -/
theorem closeActiveClient (h : Handles s) (hmain : s.mainThread.holdsLock = false) :
    Handles (s.closeActiveClient .main) ∧ closedByMain (s.closeActiveClient .main).log =
      (closedByMain s.log || s.activeClientHandle.isSome) := by
  unfold MCPIPCTransport.closeActiveClient
  cases hactive : s.activeClientHandle with
  | none => exact ⟨h, by simp⟩
  | some pipe =>
      obtain ⟨hpipe, hthread⟩ := h.active hactive
      refine ⟨?_, by simp [closeHandle]⟩
      constructor
      case current => exact h.current
      case active => simp
      case ipc =>
        intro other
        have hlog : closesBy .ipc other (s.log ++ [.closed pipe .main]) =
            closesBy .ipc other s.log := by
          rw [closesBy_closed, if_neg (by simp), Nat.add_zero]
        exact hlog.trans (h.ipc other)
      case main =>
        intro other
        simp only [closeHandle, closesBy_closed]
        by_cases heq : pipe = other
        · subst heq
          have hcurrent := h.current hpipe
          exact .inr ⟨by omega, by simp, hthread⟩
        · rcases h.main other with hzero | ⟨hlt, -, hother⟩
          · exact .inl (by simp [hzero, heq])
          · exact .inr ⟨hlt, by simp, hother⟩
      case sending =>
        intro hlock
        exact absurd (hmain.symm.trans hlock) (by simp)

/-- What is active is the pipe that the IPC thread has. -/
theorem active_eq {pipe : Nat} (h : Handles s) (hpipe : s.ipcThread.pipe = some pipe) :
    s.activeClientHandle = none ∨ s.activeClientHandle = some pipe := by
  cases hactive : s.activeClientHandle with
  | none => exact .inl rfl
  | some other => exact .inr ((h.active hactive).1.symm.trans hpipe)

theorem active_none (h : Handles s) (hpipe : s.ipcThread.pipe = none) :
    s.activeClientHandle = none := by
  cases hactive : s.activeClientHandle with
  | none => rfl
  | some pipe => exact absurd (hpipe.symm.trans (h.active hactive).1) (by simp)

/-- The IPC thread closes the pipe it has, and then has none. -/
theorem closePipe {pipe : Nat} (h : Handles s) (hpipe : s.ipcThread.pipe = some pipe)
    (hmain : s.mainThread.holdsLock = false) :
    Handles ((s.closePipe pipe).goto .isStopping) ∧
      closedByMain ((s.closePipe pipe).goto .isStopping).log = closedByMain s.log := by
  have hcurrent := h.current hpipe
  rw [closePipe_eq (h.active_eq hpipe)]
  simp only [MCPIPCTransport.goto]
  refine ⟨?_, by simp⟩
  constructor
  case current => exact fun hp => by cases hp
  case active => simp
  case ipc =>
    intro other
    rw [closesBy_closed, h.ipc other, hpipe]
    by_cases heq : pipe = other
    · subst heq
      simp [RunLoopPoint.pipe]
      omega
    · simp [heq, RunLoopPoint.pipe]
  case main =>
    intro other
    rw [closesBy_closed]
    rcases h.main other with hzero | ⟨hlt, -, -⟩
    · exact .inl (by simp [hzero])
    · exact .inr ⟨hlt, by simp, by simp⟩
  case sending =>
    intro hlock
    exact absurd (hmain.symm.trans hlock) (by simp)

theorem createNamedPipe {succeeds : Bool} (h : Handles s)
    (hstep : s.createNamedPipe succeeds = some t) :
    Handles t ∧ closedByMain t.log = closedByMain s.log := by
  unfold MCPIPCTransport.createNamedPipe at hstep
  split at hstep
  case h_2 => cases hstep
  case h_1 hthread =>
    cases succeeds with
    | false =>
        cases hstep
        exact ⟨h.goto .returned (by rw [hthread]; rfl) (by simp), rfl⟩
    | true =>
        cases hstep
        have hnone := h.active_none (by rw [hthread]; rfl)
        constructor
        · constructor
          case current =>
            intro pipe hpipe
            obtain rfl : s.createdCount = pipe := by simpa [RunLoopPoint.pipe] using hpipe
            rfl
          case active => simp [hnone]
          case ipc =>
            intro pipe
            rw [closesBy_created, h.ipc pipe, hthread]
            simp only [RunLoopPoint.pipe]
            apply if_congr _ rfl rfl
            simp
            omega
          case main =>
            intro pipe
            rw [closesBy_created, hnone]
            rcases h.main pipe with hzero | ⟨hlt, -, -⟩
            · exact .inl hzero
            · refine .inr ⟨by simp; omega, by simp, ?_⟩
              intro heq
              simp at heq
              omega
          case sending => exact h.sending
        · simp

/-- The pipe of the IPC thread becomes the active one. -/
theorem activate {pipe : Nat} (h : Handles s) (hthread : s.ipcThread = .activate pipe) :
    Handles
      { s with
        activeClientHandle := some pipe
        activeClientGeneration := s.activeClientGeneration + 1
        signaledStart := true
        ipcThread := .connectNamedPipe pipe } := by
  have hpipe : s.ipcThread.pipe = some pipe := by rw [hthread]; rfl
  constructor
  case current =>
    intro other hother
    exact h.current (hpipe.trans hother)
  case active =>
    intro other hother
    exact ⟨hother, by simp⟩
  case ipc =>
    intro other
    rw [h.ipc other, hpipe]
    rfl
  case main =>
    intro other
    rcases h.main other with hzero | ⟨hlt, -, hother⟩
    · exact .inl hzero
    · refine .inr ⟨hlt, ?_, by simp⟩
      intro heq
      cases heq
      exact hother hthread
  case sending => simp

theorem runLoop (h : Handles s) (hstep : s.runLoop json = some t) :
    Handles t ∧ closedByMain t.log = closedByMain s.log := by
  unfold MCPIPCTransport.runLoop at hstep
  split at hstep
  case h_1 hthread =>
    obtain ⟨-, rfl⟩ := locked_eq_some.mp hstep
    refine ⟨h.goto _ ?_ ?_, rfl⟩
    · rw [hthread]
      split <;> rfl
    · split <;> simp
  case h_2 pipe hthread =>
    obtain ⟨-, rfl⟩ := locked_eq_some.mp hstep
    exact ⟨h.activate hthread, rfl⟩
  case h_3 pipe hthread =>
    obtain ⟨hmain, rfl⟩ := locked_eq_some.mp hstep
    exact h.closePipe (by rw [hthread]; rfl) hmain
  case h_4 pipe hthread =>
    obtain ⟨-, rfl⟩ := locked_eq_some.mp hstep
    refine ⟨h.goto _ ?_ ?_, rfl⟩
    · rw [hthread]
      split <;> rfl
    · split <;> simp
  case h_5 pipe hthread =>
    obtain ⟨-, rfl⟩ := locked_eq_some.mp hstep
    exact ⟨h.goto _ (by rw [hthread]; rfl) (by simp), rfl⟩
  case h_6 pipe clientGeneration hthread =>
    cases hstep
    unfold dispatchNext
    split
    · exact ⟨h.goto _ (by rw [hthread]; rfl) (by simp), rfl⟩
    · exact ⟨h.keep rfl rfl rfl rfl (fun _ => id) h.sending, rfl⟩
  case h_7 pipe hthread =>
    obtain ⟨hmain, rfl⟩ := locked_eq_some.mp hstep
    exact h.closePipe (by rw [hthread]; rfl) hmain
  case h_8 hthread =>
    obtain ⟨-, rfl⟩ := locked_eq_some.mp hstep
    -- the loop has ended, so that no pipe is active and `RequestStopLocked` closes nothing
    have hnone := h.active_none (by rw [hthread]; rfl)
    have hclose : s.closeActiveClient .ipc = s := by
      simp [MCPIPCTransport.closeActiveClient, hnone]
    rw [hclose]
    exact ⟨h.goto _ (by rw [hthread]; rfl) (by simp), rfl⟩
  case h_9 => cases hstep

theorem connectNamedPipe {connected : Bool} (h : Handles s)
    (hstep : s.connectNamedPipe connected = some t) :
    Handles t ∧ closedByMain t.log = closedByMain s.log := by
  unfold MCPIPCTransport.connectNamedPipe at hstep
  split at hstep
  case h_2 => cases hstep
  case h_1 pipe hthread =>
    have hpipe : s.ipcThread.pipe = some pipe := by rw [hthread]; rfl
    cases connected with
    | false =>
        cases hstep
        exact ⟨h.goto _ hpipe.symm (by simp), rfl⟩
    | true =>
        cases hstep
        exact ⟨h.keep rfl rfl rfl hpipe.symm (by simp) h.sending, rfl⟩

theorem readFile {chunk : Option Chunk} (h : Handles s) (hstep : s.readFile chunk = some t) :
    Handles t ∧ closedByMain t.log = closedByMain s.log := by
  unfold MCPIPCTransport.readFile at hstep
  split at hstep
  case h_1 pipe clientGeneration hthread =>
    cases hstep
    exact ⟨h.goto _ (by rw [hthread]; rfl) (by simp), rfl⟩
  case h_2 pipe clientGeneration chunk hthread =>
    cases hstep
    exact ⟨h.keep rfl rfl rfl (by rw [hthread]; rfl) (by simp) h.sending, rfl⟩
  case h_3 => cases hstep

theorem sendRemaining (h : Handles s) (hactive : s.activeClientHandle ≠ none)
    (remaining : List UInt8) : Handles (s.sendRemaining remaining) :=
  h.keep rfl rfl rfl rfl (fun _ => id) fun _ => hactive

theorem sendResponse {index : Nat} {response : Option DictValue} (h : Handles s)
    (hstep : s.sendResponse json index response = some t) :
    Handles t ∧ closedByMain t.log = closedByMain s.log := by
  unfold MCPIPCTransport.sendResponse at hstep
  split at hstep
  case h_2 => cases hstep
  case h_1 request hmain hrequest =>
    have hposted : Handles { s with posted := s.posted.eraseIdx index } :=
      h.keep rfl rfl rfl rfl (fun _ => id) h.sending
    simp only at hstep
    split at hstep
    · cases hstep
      exact ⟨hposted, rfl⟩
    · cases hstep
      unfold sendSerializedResponse
      split
      · exact ⟨hposted, rfl⟩
      · rename_i hactive
        exact ⟨hposted.sendRemaining (fun hnone => hactive (.inl hnone)) _, rfl⟩

theorem writeFile {written : Option Nat} (h : Handles s) (hstep : s.writeFile written = some t) :
    Handles t ∧ closedByMain t.log = (closedByMain s.log || written.isNone) := by
  unfold MCPIPCTransport.writeFile at hstep
  split at hstep
  case h_1 remaining count hmain =>
    have hactive := h.sending (by rw [hmain]; rfl)
    split at hstep
    · cases hstep
      exact ⟨h.sendRemaining hactive _, by simp [MCPIPCTransport.sendRemaining]⟩
    · cases hstep
  case h_2 remaining hmain =>
    have hactive := h.sending (by rw [hmain]; rfl)
    cases hstep
    have hidle : Handles { s with mainThread := .idle } :=
      h.keep rfl rfl rfl rfl (fun _ => id) (by simp [MainPoint.holdsLock])
    have hclosed := hidle.closeActiveClient rfl
    refine ⟨hclosed.1, hclosed.2.trans ?_⟩
    simp [Option.isSome_iff_ne_none.mpr hactive]
  case h_3 => cases hstep

theorem destroy (h : Handles s) (hstep : s.destroy = some t) :
    Handles t ∧ closedByMain t.log = (closedByMain s.log || s.activeClientHandle.isSome) := by
  unfold MCPIPCTransport.destroy at hstep
  split at hstep
  case h_2 => cases hstep
  case h_1 hmain =>
    split at hstep
    · cases hstep
      have hstopped : Handles { s with stopping := true, mainThread := .stopped } :=
        h.keep rfl rfl rfl rfl (fun _ => id) (by simp [MainPoint.holdsLock])
      exact hstopped.closeActiveClient rfl
    · cases hstep

theorem step {input : IPCInput} (h : Handles s) (hstep : s.step json input = some t) :
    Handles t ∧ closedByMain t.log = (closedByMain s.log || s.mainCloses input) := by
  cases input with
  | runLoop => simpa [mainCloses] using h.runLoop hstep
  | createNamedPipe succeeds => simpa [mainCloses] using h.createNamedPipe hstep
  | connectNamedPipe connected => simpa [mainCloses] using h.connectNamedPipe hstep
  | readFile chunk => simpa [mainCloses] using h.readFile hstep
  | sendResponse index response => simpa [mainCloses] using h.sendResponse hstep
  | writeFile written => exact h.writeFile hstep
  | destroy => exact h.destroy hstep

/-- When `RunLoop` has returned, it has closed each pipe once; the closes of the main thread come
on top. -/
theorem closes_once_iff (h : Handles s) (hreturned : s.ipcThread = .returned) :
    (∀ pipe < s.createdCount, closes pipe s.log = 1) ↔ closedByMain s.log = false := by
  rw [← Bool.not_eq_true, closedByMain_iff]
  constructor
  · intro honce hmain
    obtain ⟨pipe, hpos⟩ := hmain
    rcases h.main pipe with hzero | ⟨hlt, -, -⟩
    · omega
    · have hipc := h.ipc pipe
      rw [hreturned, if_pos ⟨hlt, by simp [RunLoopPoint.pipe]⟩] at hipc
      have hclose := honce pipe hlt
      rw [closes_eq] at hclose
      omega
  · intro hmain pipe hlt
    have hipc := h.ipc pipe
    rw [hreturned, if_pos ⟨hlt, by simp [RunLoopPoint.pipe]⟩] at hipc
    have hzero : ¬0 < closesBy .main pipe s.log := fun hpos => hmain ⟨pipe, hpos⟩
    rw [closes_eq]
    omega

end Handles

open MCPIPCTransport in
/-- When `RunLoop` has returned, each pipe has been closed once exactly if the main thread has never
closed one: no `WriteFile` has failed, and the destructor has found no active pipe. -/
theorem pipes_closed_once_iff (json : JSONCodec) {inputs : List IPCInput} {s : MCPIPCTransport}
    (hrun : Exec (Step (step json)) start inputs s) (hreturned : s.ipcThread = .returned) :
    (∀ pipe < s.createdCount, closes pipe s.log = 1) ↔
      Exec (Guarded (Step (step json)) fun s input => s.mainCloses input = false) start inputs
        s := by
  have hhandles : Handles s := by
    apply hrun.invariant _ Handles.start
    intro s input t hs hstep
    exact (hs.step hstep).1
  rw [hhandles.closes_once_iff hreturned]
  have hflag := Exec.flag_iff (I := Handles) (fun s => closedByMain s.log) mainCloses
    (fun s input t hs hstep => hs.step hstep) hrun Handles.start
  rw [hflag]
  exact and_iff_right rfl

/-- A client comes and goes, and the destructor runs before the next pipe is active. -/
def stoppedBetweenClients : List IPCInput :=
  [.runLoop, .createNamedPipe true, .runLoop, .connectNamedPipe true, .runLoop, .runLoop,
    .readFile none, .runLoop, .runLoop, .createNamedPipe true, .destroy, .runLoop,
    .connectNamedPipe false, .runLoop, .runLoop, .runLoop]

open MCPIPCTransport in
theorem pipes_closed_once_sample :
    ∃ s, Exec (Step (step emptyObjectJSON)) start stoppedBetweenClients s ∧
      s.ipcThread = .returned ∧ s.createdCount = 2 ∧ ∀ pipe < s.createdCount,
        closes pipe s.log = 1 := by
  have hend : (stoppedBetweenClients.foldlM (fun s input =>
      if !s.mainCloses input then step emptyObjectJSON s input else none) start).map
        (fun s => (s.ipcThread, s.createdCount)) = some (.returned, 2) := by decide
  obtain ⟨s, hguarded, hs⟩ := Exec.exists_guarded_of_foldlM hend
  obtain ⟨hreturned, hcount⟩ := Prod.mk.inj hs
  have hrun := hguarded.mono fun _ _ _ hstep => hstep.1
  refine ⟨s, hrun, hreturned, hcount, (pipes_closed_once_iff _ hrun hreturned).mpr ?_⟩
  apply hguarded.mono
  intro s input t hstep
  exact ⟨hstep.1, by simpa using hstep.2⟩

/-- The destructor closes the pipe that waits for a client, and `RunLoop` closes it again. -/
def stoppedWhileListening : List IPCInput :=
  [.runLoop, .createNamedPipe true, .runLoop, .destroy, .connectNamedPipe false, .runLoop,
    .runLoop, .runLoop]

open MCPIPCTransport in
theorem listening_pipe_closed_twice :
    ∃ s, Exec (Step (step emptyObjectJSON)) start stoppedWhileListening s ∧
      s.ipcThread = .returned ∧ s.createdCount = 1 ∧ closes 0 s.log = 2 := by
  have hend : (stoppedWhileListening.foldlM (step emptyObjectJSON) start).map
      (fun s => (s.ipcThread, s.createdCount, closes 0 s.log)) = some (.returned, 1, 2) := by decide
  obtain ⟨s, hrun, hs⟩ := Exec.exists_of_foldlM hend
  obtain ⟨hreturned, hs⟩ := Prod.mk.inj hs
  obtain ⟨hcount, hcloses⟩ := Prod.mk.inj hs
  exact ⟨s, hrun, hreturned, hcount, hcloses⟩

end Browserd.Windows
