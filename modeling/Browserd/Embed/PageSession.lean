import Browserd.Embed.Completion
import Browserd.Embed.SessionCalls
import Browserd.MCP.ToolSteps

/-!
# A session with all its operations

A session with every operation as it is, driven by the threads of the host, by the tabs and by what
Chromium answers. Unlike the server, a session has any number of calls under way. It refines the
session of which only the places of the calls are known, which lets go of no callback that the
controller has been given.
-/

namespace Browserd

open Transition (Exec Step)

inductive PageSessionTask where
  | controllerTask (call : Nat) (request : ControllerCall)
  | destroySessionController

/-- An `EmbedSession` with what its calls ask for and what their callbacks have been given. -/
structure PageSession (ρ κ : Type) [BrowserRuntime ρ] where
  controller : Bool
  taskRunner : Bool
  shuttingDown : Bool
  calls : Nat
  posting : List (Nat × ControllerCall)
  tasks : List PageSessionTask
  state : ControllerState ρ κ
  operations : List (Nat × ControllerOperation)
  returned : List (Nat × Nat)
  reports : List (Nat × ControllerResult)
  lost : List Nat

/-- What becomes of the tabs, also when the runtime is shut down, is a change of the environment. -/
inductive PageSessionInput (ρ κ : Type) [BrowserRuntime ρ] where
  | call (c : BrowserdCall) (callback : Bool)
  | postTask (call : Nat)
  | shutdown (onUIThread : Bool)
  | runTask
  | answer (call : Nat) (answer : ControllerAnswer)
  | environment (runtime : ρ) (builder : BrowserRuntime.Builder ρ) (setting : PageSetting)
      (cookies : κ)

namespace PageSession

variable {ρ : Type} [BrowserRuntime ρ] {κ : Type}

def start (taskRunner : Bool) (state : ControllerState ρ κ) : PageSession ρ κ where
  controller := true
  taskRunner := taskRunner
  shuttingDown := false
  calls := 0
  posting := []
  tasks := []
  state := state
  operations := []
  returned := []
  reports := []
  lost := []

/-- A call up to `PostTask`. -/
def schedule (c : BrowserdCall) (callback : Bool) (s : PageSession ρ κ) : PageSession ρ κ :=
  let rejected : PageSession ρ κ :=
    { s with
      calls := s.calls + 1
      returned := s.returned ++ [(s.calls, EmbedSession.kScheduleRejected)] }
  if !callback then rejected
  else
    match c.controllerCall with
    | none => rejected
    | some request =>
        if s.shuttingDown || !s.controller || !s.taskRunner then rejected
        else { s with calls := s.calls + 1, posting := s.posting ++ [(s.calls, request)] }

def destroySessionController (s : PageSession ρ κ) : PageSession ρ κ :=
  if !s.controller then s else { s with shuttingDown := true, controller := false }

def shutdown (onUIThread : Bool) (s : PageSession ρ κ) : PageSession ρ κ :=
  if s.shuttingDown then s
  else
    let s := { s with shuttingDown := true }
    if !s.controller then s
    else if !s.taskRunner || onUIThread then s.destroySessionController
    else { s with tasks := s.tasks ++ [.destroySessionController] }

/-- The callback of a call that is completed runs. -/
def proceed (call : Nat) (progress : ControllerProgress) (s : PageSession ρ κ) : PageSession ρ κ :=
  match progress with
  | .completed result => { s with reports := s.reports ++ [(call, result)] }
  | .waits operation => { s with operations := s.operations ++ [(call, operation)] }

def controllerTask (chromium : PageChromium κ) (call : Nat) (request : ControllerCall)
    (s : PageSession ρ κ) : PageSession ρ κ :=
  if s.shuttingDown || !s.controller then { s with lost := s.lost ++ [call] }
  else
    let (state, progress) := request.start chromium s.state
    { s with state := state }.proceed call progress

def findOperation (call : Nat) (s : PageSession ρ κ) : Option (Nat × ControllerOperation) :=
  s.operations.find? fun entry => entry.1 == call

/-- The operation of a call is over, or goes on in its place. -/
def answered (call : Nat) (progress : ControllerProgress) (s : PageSession ρ κ) :
    PageSession ρ κ :=
  match progress with
  | .completed result =>
      { s with
        operations := s.operations.eraseP fun entry => entry.1 == call
        reports := s.reports ++ [(call, result)] }
  | .waits operation =>
      { s with
        operations := s.operations.map fun entry =>
          if entry.1 == call then (call, operation) else entry }

def step (chromium : PageChromium κ) (s : PageSession ρ κ) :
    PageSessionInput ρ κ → Option (PageSession ρ κ)
  | .call c callback => some (s.schedule c callback)
  | .postTask call =>
      (s.posting.find? fun entry => entry.1 == call).map fun entry =>
        { s with
          posting := s.posting.eraseP fun entry => entry.1 == call
          tasks := s.tasks ++ [.controllerTask call entry.2]
          returned := s.returned ++ [(call, EmbedSession.kScheduleOk)] }
  | .shutdown onUIThread => some (s.shutdown onUIThread)
  | .runTask =>
      match s.tasks with
      | [] => none
      | .controllerTask call request :: rest =>
          some ({ s with tasks := rest }.controllerTask chromium call request)
      | .destroySessionController :: rest => some { s with tasks := rest }.destroySessionController
  | .answer call answer =>
      (s.findOperation call).bind fun entry =>
        (entry.2.deliver chromium s.controller s.state answer).map fun (state, progress) =>
          { s with state := state }.answered call progress
  | .environment runtime builder setting cookies =>
      some { s with
        state := { s.state with
          runtime := runtime
          builder := builder
          setting := setting
          cookies := cookies } }

/-- The session as far as the places of its calls go. -/
def toEmbedSession (s : PageSession ρ κ) : EmbedSession where
  controller := s.controller
  taskRunner := s.taskRunner
  shuttingDown := s.shuttingDown
  calls := s.calls
  posting := s.posting.map fun entry => (entry.1, entry.2.operation)
  tasks := s.tasks.map fun
    | .controllerTask call request => .controllerTask call request.operation
    | .destroySessionController => .destroySessionController
  held := s.operations.map Prod.fst
  returned := s.returned
  ran := s.reports.map Prod.fst
  lost := s.lost

end PageSession

section Calls

namespace BrowserdCall

/-- A call asks for its own operation. -/
theorem operation_eq {c : BrowserdCall} {request : ControllerCall}
    (h : c.controllerCall = some request) : request.operation = c.operation := by
  cases c with
  | cookieList targetId options =>
      cases options with
      | none =>
          obtain rfl := Option.some.inj h
          rfl
      | some options =>
          obtain ⟨_, -, h⟩ := Option.bind_eq_some_iff.mp h
          obtain rfl := Option.some.inj h
          rfl
  | _ =>
      -- What a call checks comes before its request.
      simp only [controllerCall, Option.bind_eq_bind, Option.bind_eq_some_iff,
        Option.map_eq_some_iff, Option.some.injEq] at h
      first
        | (obtain rfl := h; rfl)
        | (obtain ⟨_, -, rfl⟩ := h; rfl)
        | (obtain ⟨_, -, _, -, rfl⟩ := h; rfl)
        | (obtain ⟨_, -, _, -, _, -, rfl⟩ := h; rfl)

theorem checksArguments_of_none {c : BrowserdCall} (h : c.controllerCall = none) :
    c.operation.checksArguments = true := by
  cases c <;> first | rfl | cases h

end BrowserdCall

variable {ρ : Type} [BrowserRuntime ρ] {κ : Type} {chromium : PageChromium κ}
  {c c' : ControllerState ρ κ}

theorem ControllerCall.start_reportsAtOnce (chromium : PageChromium κ) (c : ControllerState ρ κ)
    {request : ControllerCall} (h : request.operation.reportsAtOnce = true) :
    ∃ result, (request.start chromium c).2 = .completed result := by
  cases request with
  | listTabs => exact ⟨_, rfl⟩
  | closeTab targetId => exact ⟨_, rfl⟩
  | resizeActive width height => exact ⟨_, rfl⟩
  | navigateBack targetId => exact ⟨_, rfl⟩
  | navigateForward targetId => exact ⟨_, rfl⟩
  | inTab targetId call =>
      cases call with
      | interact request => cases request <;> cases h
      | _ => cases h
  | _ => cases h

/-- The callback of the operation has not been run. -/
def ControllerOperation.Pending : ControllerOperation → Prop
  | .waiter w _ => w.Unanswered
  | .page operation => operation.Pending

/-- A call is completed with a result that its callback can read, or its operation waits. -/
inductive ControllerProgress.Proper : ControllerProgress → Prop
  | completed {result : ControllerResult} (consistent : result.Consistent) :
      Proper (.completed result)
  | waits {operation : ControllerOperation} (pending : operation.Pending) :
      Proper (.waits operation)

theorem PageProgress.Proper.toControllerProgress {progress : PageProgress} (h : progress.Proper) :
    progress.toControllerProgress.Proper := by
  cases h with
  | completed consistent => exact .completed consistent
  | waits pending => exact .waits pending

namespace BrowserController

theorem createTab_consistent {builder : BrowserRuntime.Builder ρ} {url : GURL} {rt : ρ}
    {result : BrowserResult BrowserTabInfo}
    (h : (createTab builder url rt).2 = .reported result) : result.Consistent := by
  have failed {code : BrowserStatusCode} (hcode : code ≠ .ok) {message : String}
      (h : (.reported (.error code message) : Started (BrowserResult BrowserTabInfo) String) =
        .reported result) : result.Consistent := by
    obtain rfl := Started.reported.inj h
    exact BrowserResult.error_consistent hcode message
  simp only [createTab] at h
  split at h
  · exact failed (by decide) h
  split at h
  · exact failed (by decide) h
  split at h
  · obtain rfl := Started.reported.inj h
    exact BrowserResult.ok_consistent _
  split at h
  · exact failed (by decide) h
  · cases h

theorem createdTab_consistent (targetId : String) (status : BrowserStatus) (rt : ρ) :
    (createdTab targetId status rt).Consistent := by
  rw [createdTab]
  split
  · rename_i hstatus
    exact BrowserResult.passed_consistent (by simpa using hstatus)
  split
  · exact BrowserResult.ok_consistent _
  · exact BrowserResult.error_consistent (by decide) _

end BrowserController

theorem ControllerCall.start_proper (request : ControllerCall) :
    (request.start chromium c).2.Proper := by
  cases request with
  | createTab url =>
      simp only [start]
      split
      · rename_i result heq
        exact .completed (BrowserController.createTab_consistent heq)
      · rename_i page waiter targetId heq
        obtain rfl := BrowserController.createTab_waiter heq
        exact .waits (NavigationWaiter.start_live _)
  | navigate targetId url =>
      simp only [start]
      split
      · exact .completed trivial
      · rename_i page waiter kept heq
        obtain rfl := BrowserController.navigate_waiter heq
        exact .waits (NavigationWaiter.start_live _)
  | reload targetId =>
      simp only [start]
      split
      · exact .completed trivial
      · rename_i page waiter kept heq
        obtain rfl := BrowserController.reload_waiter heq
        exact .waits rfl
  | inTab targetId call =>
      exact (BrowserController.startCall_proper chromium c.runtime targetId c.toPageState
        call).toControllerProgress
  | listTabs => exact .completed (BrowserResult.ok_consistent _)
  | _ => exact .completed trivial

namespace ControllerOperation

variable {operation : ControllerOperation} {answer : ControllerAnswer} {controller : Bool}
  {progress : ControllerProgress}

theorem waiterResult_consistent (controller : Bool) (rt : ρ) (createdTab : Option String)
    (status : BrowserStatus) : (waiterResult controller rt createdTab status).Consistent := by
  cases createdTab with
  | none => trivial
  | some targetId =>
      simp only [waiterResult]
      split
      · exact BrowserResult.error_consistent (by decide) _
      · exact BrowserController.createdTab_consistent targetId status rt

theorem Pending.deliver (hpending : operation.Pending)
    (h : operation.deliver chromium controller c answer = some (c', progress)) :
    progress.Proper := by
  cases operation with
  | waiter w createdTab =>
      cases answer with
      | waiterEvent event =>
          simp only [ControllerOperation.deliver] at h
          split at h
          · rename_i w' hdeliver
            obtain ⟨-, rfl⟩ := Prod.mk.inj (Option.some.inj h)
            have hunanswered : w.Unanswered := hpending
            exact .waits (hunanswered.deliver hdeliver)
          · obtain ⟨-, rfl⟩ := Prod.mk.inj (Option.some.inj h)
            exact .completed (waiterResult_consistent controller c.runtime createdTab _)
      | page answer => cases h
  | page operation =>
      cases answer with
      | waiterEvent event => cases h
      | page answer =>
          obtain ⟨⟨state, delivered⟩, hdeliver, heq⟩ := Option.map_eq_some_iff.mp h
          obtain ⟨-, rfl⟩ := Prod.mk.inj heq
          have hpage : operation.Pending := hpending
          cases delivered with
          | completed result => exact .completed (PageOperation.deliver_completed hpage hdeliver)
          | waits operation' => exact .waits (PageOperation.deliver_waits hpage hdeliver).1

end ControllerOperation

end Calls

namespace PageSession

variable {ρ : Type} [BrowserRuntime ρ] {κ : Type} {chromium : PageChromium κ}
  {s t : PageSession ρ κ}

theorem schedule_refines (c : BrowserdCall) (callback : Bool) :
    (s.schedule c callback).toEmbedSession =
      s.toEmbedSession.schedule ⟨c.operation, callback, c.controllerCall.isSome⟩ := by
  have rejected {call : EmbedCall} (h : s.toEmbedSession.rejects call = true) :
      s.toEmbedSession.schedule call =
        { s.toEmbedSession with
          calls := s.calls + 1
          returned := s.returned ++ [(s.calls, EmbedSession.kScheduleRejected)] } := by
    rw [EmbedSession.schedule, if_pos h]
    rfl
  cases callback with
  | false =>
      rw [rejected (by simp [EmbedSession.rejects])]
      rfl
  | true =>
      cases hcall : c.controllerCall with
      | none =>
          have hchecks := BrowserdCall.checksArguments_of_none hcall
          rw [rejected (by simp [EmbedSession.rejects, hchecks])]
          simp only [schedule, hcall]
          rfl
      | some request =>
          have hrejects : s.toEmbedSession.rejects ⟨c.operation, true, true⟩ =
              (s.shuttingDown || !s.controller || !s.taskRunner) := by
            simp [EmbedSession.rejects, toEmbedSession]
          simp only [schedule, hcall, EmbedSession.schedule, Option.isSome_some, hrejects,
            Bool.not_true, Bool.false_eq_true, if_false]
          split
          · rfl
          · simp [toEmbedSession, BrowserdCall.operation_eq hcall]

theorem shutdown_refines (onUIThread : Bool) :
    (s.shutdown onUIThread).toEmbedSession = s.toEmbedSession.shutdown onUIThread := by
  simp only [shutdown, EmbedSession.shutdown, destroySessionController,
    EmbedSession.destroySessionController, toEmbedSession]
  grind

theorem completed_refines (call : Nat) (result : ControllerResult) :
    (s.answered call (.completed result)).toEmbedSession =
      { s.toEmbedSession with
        held := s.toEmbedSession.held.erase call
        ran := s.toEmbedSession.ran ++ [call] } := by
  simp only [answered, toEmbedSession, List.map_append, List.erase_eq_eraseP', List.eraseP_map]
  rfl

theorem waits_refines (call : Nat) (operation : ControllerOperation) :
    (s.answered call (.waits operation)).toEmbedSession = s.toEmbedSession := by
  have hcalls : (s.operations.map fun entry =>
      if entry.1 == call then (call, operation) else entry).map Prod.fst =
        s.operations.map Prod.fst := by
    rw [List.map_map]
    apply List.map_congr_left
    intro entry _
    by_cases hentry : entry.1 = call
    · simp [hentry]
    · simp [hentry]
  simp only [answered, toEmbedSession, hcalls]

/-- The call whose task runs is nowhere else. -/
theorem next_notMem_held {s : EmbedSession} (h : s.Inv) {call : Nat} {operation : EmbedOperation}
    {rest : List SessionTask} (htasks : s.tasks = .controllerTask call operation :: rest) :
    call ∉ s.held := by
  intro hheld
  have hplaced := h.placed call
  have haccepted : s.acceptedCalls.count call ≤ 1 :=
    List.nodup_iff_count_le_one.mp h.accepted_nodup call
  have hcount := List.count_pos_iff.mpr hheld
  rw [EmbedSession.waiting_cons htasks, List.count_cons_self] at hplaced
  omega

theorem controllerTask_refines {call : Nat} {request : ControllerCall}
    {rest : List PageSessionTask} (h : s.toEmbedSession.Inv)
    (htasks : s.tasks = .controllerTask call request :: rest) :
    ∃ events, Exec (Step EmbedSession.step) s.toEmbedSession events
      (({ s with tasks := rest } : PageSession ρ κ).controllerTask chromium call
        request).toEmbedSession := by
  let next : PageSession ρ κ := { s with tasks := rest }
  have htasks' : s.toEmbedSession.tasks =
      .controllerTask call request.operation :: next.toEmbedSession.tasks := by
    simp [toEmbedSession, next, htasks]
  have hstep : s.toEmbedSession.step .runTask =
      some (next.toEmbedSession.controllerTask call request.operation) := by
    simp only [EmbedSession.step, htasks']
    rfl
  have hrun : ∃ events, Exec (Step EmbedSession.step) s.toEmbedSession events
      (next.toEmbedSession.controllerTask call request.operation) :=
    ⟨[.runTask], .cons hstep (.nil _)⟩
  have hdown_eq : (next.toEmbedSession.shuttingDown || !next.toEmbedSession.controller) =
      (s.shuttingDown || !s.controller) := rfl
  rw [EmbedSession.controllerTask, hdown_eq] at hrun
  simp only [controllerTask]
  by_cases hdown : (s.shuttingDown || !s.controller) = true
  · rw [if_pos hdown]
    rw [if_pos hdown] at hrun
    exact hrun
  · rw [if_neg hdown]
    rw [if_neg hdown] at hrun
    cases hprogress : (request.start chromium s.state).2 with
    | completed result =>
        by_cases hatOnce : request.operation.reportsAtOnce = true
        · rw [if_pos hatOnce] at hrun
          simpa [proceed, toEmbedSession, next] using hrun
        · -- The controller holds the callback until the operation calls it back.
          rw [if_neg hatOnce] at hrun
          obtain ⟨events, hrun⟩ := hrun
          have herase : (s.toEmbedSession.held ++ [call]).erase call = s.toEmbedSession.held := by
            rw [List.erase_append_right _ (next_notMem_held h htasks')]
            simp
          refine ⟨events ++ [.complete call], hrun.append (.cons ?_ (.nil _))⟩
          have hmem : call ∈ next.toEmbedSession.held ++ [call] := by simp
          have hheld : next.toEmbedSession.held = s.toEmbedSession.held := rfl
          simp only [Step, EmbedSession.step]
          rw [if_pos hmem, hheld, herase]
          simp [proceed, toEmbedSession, next]
    | waits operation =>
        have hwaits : ¬ request.operation.reportsAtOnce = true := by
          intro hatOnce
          obtain ⟨result, hresult⟩ :=
            ControllerCall.start_reportsAtOnce chromium s.state hatOnce
          cases hresult.symm.trans hprogress
        rw [if_neg hwaits] at hrun
        simpa [proceed, toEmbedSession, next] using hrun

theorem step_refines {input : PageSessionInput ρ κ} (h : s.toEmbedSession.Inv)
    (hstep : s.step chromium input = some t) :
    ∃ events, Exec (Step EmbedSession.step) s.toEmbedSession events t.toEmbedSession := by
  cases input with
  | call c callback =>
      obtain rfl := Option.some.inj hstep
      rw [schedule_refines]
      exact ⟨[.call ⟨c.operation, callback, c.controllerCall.isSome⟩], .cons rfl (.nil _)⟩
  | postTask call =>
      obtain ⟨⟨number, request⟩, hfind, rfl⟩ := Option.map_eq_some_iff.mp hstep
      have hfind' : (s.toEmbedSession.posting.find? fun entry => entry.1 == call) =
          some (number, request.operation) := by
        simp only [toEmbedSession, List.find?_map, Function.comp_def, hfind, Option.map_some]
      refine ⟨[.postTask call], .cons ?_ (.nil _)⟩
      simp only [Step, EmbedSession.step, hfind']
      simp [toEmbedSession, List.eraseP_map, Function.comp_def]
  | shutdown onUIThread =>
      obtain rfl := Option.some.inj hstep
      rw [shutdown_refines]
      exact ⟨[.shutdown onUIThread], .cons rfl (.nil _)⟩
  | runTask =>
      simp only [step] at hstep
      split at hstep
      · cases hstep
      · rename_i call request rest htasks
        obtain rfl := Option.some.inj hstep
        exact controllerTask_refines h htasks
      · rename_i rest htasks
        obtain rfl := Option.some.inj hstep
        refine ⟨[.runTask], .cons ?_ (.nil _)⟩
        simp only [Step, EmbedSession.step, toEmbedSession, htasks, List.map_cons,
          EmbedSession.destroySessionController, destroySessionController]
        split <;> rfl
  | answer call answer =>
      obtain ⟨⟨number, operation⟩, hfind, hdeliver⟩ := Option.bind_eq_some_iff.mp hstep
      obtain ⟨⟨state, progress⟩, -, rfl⟩ := Option.map_eq_some_iff.mp hdeliver
      have hmem : call ∈ s.toEmbedSession.held := by
        have hnumber : number = call := by simpa using List.find?_some hfind
        exact hnumber ▸ List.mem_map_of_mem (List.mem_of_find?_eq_some hfind)
      cases progress with
      | completed result =>
          rw [completed_refines]
          refine ⟨[.complete call], .cons ?_ (.nil _)⟩
          simp only [Step, EmbedSession.step]
          rw [if_pos hmem]
          rfl
      | waits operation' =>
          rw [waits_refines]
          exact ⟨[], .nil _⟩
  | environment runtime builder setting cookies =>
      obtain rfl := Option.some.inj hstep
      exact ⟨[], .nil _⟩

/-- Every run of a session is one of the session that knows the places of its calls. -/
theorem run_refines {taskRunner : Bool} {state : ControllerState ρ κ}
    {inputs : List (PageSessionInput ρ κ)}
    (hrun : Exec (Step (step chromium)) (start taskRunner state) inputs s) :
    ∃ events,
      Exec (Step EmbedSession.step) (EmbedSession.start taskRunner) events s.toEmbedSession :=
  hrun.simulation toEmbedSession (fun _ _ _ h hstep => h.step hstep)
    (fun _ _ _ h hstep => step_refines h hstep) (EmbedSession.start_inv taskRunner)

end PageSession

end Browserd
