import Browserd.Core.InteractionRuns
import Browserd.Core.NavigationCompleteness

/-!
# Mouse operations

Click, Hover and Drag at nodes forward the points of a generated path one by one, and press and
release the button. Each of them reports once. A click or a drag is reported a success only after
all of its mouse events; a hover also when its path is cut short.
-/

namespace Browserd

def TabAction.isMouse : TabAction → Bool
  | .forwardMouseMove _ => true
  | .forwardMouseButton _ _ => true
  | _ => false

/-- The mouse events that are forwarded to the tab's widget. -/
def mouseEvents (log : List InteractionEvent) : List TabAction :=
  (tabActions log).filter TabAction.isMouse

theorem mouseEvents_append (log later : List InteractionEvent) :
    mouseEvents (log ++ later) = mouseEvents log ++ mouseEvents later := by
  simp [mouseEvents, tabActions]

theorem reportedResults_append (log later : List InteractionEvent) :
    reportedResults (log ++ later) = reportedResults log ++ reportedResults later := by
  simp [reportedResults]

def movesAlong (path : List BezierPoint) : List TabAction := path.map .forwardMouseMove

/-- The steps of an operation, each with what it finds at the tab and the numbers that it
draws. -/
abbrev StepSource := Nat → TabView × RandomDraws

/-- The steps from the `n`-th one on. -/
def StepSource.after (steps : StepSource) (n : Nat) : StepSource := fun i => steps (n + i)

/-- The first `n` steps as posted tasks. -/
def StepSource.tasks (steps : StepSource) (n : Nat) : List InteractionInput :=
  taskInputs ((List.range n).map steps)

theorem StepSource.tasks_succ (steps : StepSource) (n : Nat) :
    steps.tasks (n + 1) = .runTask (steps 0).1 (steps 0).2 :: (steps.after 1).tasks n := by
  have hsucc : steps ∘ Nat.succ = steps.after 1 := by
    funext i
    exact congrArg steps (Nat.add_comm i 1)
  rw [tasks, tasks, List.range_succ_eq_map, List.map_cons, List.map_map, hsucc]
  rfl

theorem StepSource.after_after (steps : StepSource) (m n : Nat) :
    (steps.after m).after n = steps.after (m + n) := by
  funext i
  simp only [after, Nat.add_assoc]

theorem generateMousePath_length_le (random : Nat → Float) (origin target : BezierPoint) :
    (generateMousePath random origin target).length ≤ 12 := by
  simp only [generateMousePath, List.length_append, List.length_map, List.length_range',
    List.length_singleton, pathSteps]
  omega

/-- The mouse events after the end of a path, if its steps find the render view. -/
def PathDone.gesture (steps : StepSource) : PathDone → List TabAction
  | .click point =>
      [.forwardMouseButton .mouseDown point, .forwardMouseButton .mouseUp point]
  | .hover => []
  | .dragStart source target =>
      .forwardMouseButton .mouseDown source ::
        (movesAlong (generateMousePath (steps 0).2.double source target) ++
          [.forwardMouseButton .mouseUp target])
  | .dragEnd target => [.forwardMouseButton .mouseUp target]

/-- The steps after the end of a path, at the most. -/
def PathDone.stepsLeft : PathDone → Nat
  | .click _ => 2
  | .hover => 0
  | .dragStart _ _ => 13
  | .dragEnd _ => 0

/-- All mouse events of an operation on the nodes of a tree: the moves along its path, and the
button where it ends. -/
def SnapshotUse.gesture (mouse : BezierPoint) (nodes : List AXNode) (steps : StepSource) :
    SnapshotUse → Option (List TabAction)
  | .click node =>
      (Interaction.nodeBounds nodes node).map fun bounds =>
        let point := Interaction.clickPoint (steps 0).2 bounds
        movesAlong (generateMousePath (fun n => (steps 0).2.double (n + 2)) mouse point) ++
          [.forwardMouseButton .mouseDown point, .forwardMouseButton .mouseUp point]
  | .hover node =>
      (Interaction.nodeBounds nodes node).map fun bounds =>
        movesAlong (generateMousePath (steps 0).2.double mouse bounds.center)
  | .drag source target =>
      (Interaction.dragBounds source target nodes none none).map fun bounds =>
        let source := bounds.1.center
        let target := bounds.2.center
        let path := generateMousePath (steps 0).2.double mouse source
        let dragPath := generateMousePath (steps path.length).2.double source target
        movesAlong path ++ .forwardMouseButton .mouseDown source ::
          (movesAlong dragPath ++ [.forwardMouseButton .mouseUp target])

/-- The task that starts the mouse at the nodes of a tree, if they are found. -/
def SnapshotUse.task (mouse : BezierPoint) (nodes : List AXNode) (random : RandomDraws) :
    SnapshotUse → Option DelayedTask
  | .click node =>
      (Interaction.nodeBounds nodes node).map fun bounds =>
        let point := Interaction.clickPoint random bounds
        .animateMousePath (generateMousePath (fun n => random.double (n + 2)) mouse point)
          (.click point)
  | .hover node =>
      (Interaction.nodeBounds nodes node).map fun bounds =>
        .animateMousePath (generateMousePath random.double mouse bounds.center) .hover
  | .drag source target =>
      (Interaction.dragBounds source target nodes none none).map fun bounds =>
        .animateMousePath (generateMousePath random.double mouse bounds.1.center)
          (.dragStart bounds.1.center bounds.2.center)

namespace InteractionRequest

/-- The operation is a mouse operation, and its references are those of nodes. -/
def AtNodes : InteractionRequest → Prop
  | .click ref => parseDomRef ref = none
  | .hover ref => parseDomRef ref = none
  | .drag startRef endRef => parseDomRef startRef = none ∧ parseDomRef endRef = none
  | _ => False

/-- The nodes that the references name. -/
def nodeUse : InteractionRequest → Option SnapshotUse
  | .click ref => (parseRef ref).map .click
  | .hover ref => (parseRef ref).map .hover
  | .drag startRef endRef =>
      (parseRef startRef).bind fun source => (parseRef endRef).map fun target => .drag source target
  | _ => none

/-- Every mouse event of the operation has been forwarded, in order, and no other. -/
def Performed (mouse : BezierPoint) (nodes : List AXNode) (steps : StepSource)
    (log : List InteractionEvent) (request : InteractionRequest) : Prop :=
  ∃ use, request.nodeUse = some use ∧ use.gesture mouse nodes steps = some (mouseEvents log)

/-- A hover that has its node finds the render view at every step that forwards a point. -/
def FindsView {ρ : Type} [BrowserRuntime ρ] (rt : ρ) (targetId : Option String) (view : TabView)
    (mouse : BezierPoint) (nodes : List AXNode) (steps : StepSource) : InteractionRequest → Prop
  | .hover ref =>
      ∀ page node bounds, BrowserController.resolveWebContents rt targetId = some page →
        view.hasMainFrame = true → parseRef ref = some node →
        Interaction.nodeBounds nodes node = some bounds →
        ∀ i < (generateMousePath (steps 0).2.double mouse bounds.center).length,
          (steps i).1.hasRenderView = true
  | _ => True

end InteractionRequest

namespace DelayedTask

def isMouse : DelayedTask → Bool
  | .animateMousePath _ _ => true
  | .mouseDown _ => true
  | .mouseUp _ => true
  | .dragPath _ _ => true
  | _ => false

/-- The mouse events of a task and of those that it leads to, if they find the render view. -/
def gesture (steps : StepSource) : DelayedTask → List TabAction
  | .animateMousePath path onDone => movesAlong path ++ onDone.gesture (steps.after path.length)
  | .mouseDown point =>
      [.forwardMouseButton .mouseDown point, .forwardMouseButton .mouseUp point]
  | .mouseUp point => [.forwardMouseButton .mouseUp point]
  | .dragPath path target => movesAlong path ++ [.forwardMouseButton .mouseUp target]
  | _ => []

/-- The steps that a task and those that it leads to take, at the most. -/
def stepsLeft : DelayedTask → Nat
  | .animateMousePath path onDone => path.length + 1 + onDone.stepsLeft
  | .mouseDown _ => 2
  | .mouseUp _ => 1
  | .dragPath path _ => path.length + 1
  | _ => 0

/-- The points that a hover has left. -/
def hoverPoints : DelayedTask → Nat
  | .animateMousePath path .hover => path.length
  | _ => 0

theorem exists_of_hoverPoints_pos {task : DelayedTask} (h : 0 < task.hoverPoints) :
    ∃ path, task = .animateMousePath path .hover := by
  cases task with
  | animateMousePath path onDone =>
      cases onDone with
      | hover => exact ⟨path, rfl⟩
      | _ => cases h
  | _ => cases h

theorem stepsLeft_pos {task : DelayedTask} (h : task.isMouse = true) : 0 < task.stepsLeft := by
  cases task with
  | animateMousePath path onDone =>
      show 0 < path.length + 1 + onDone.stepsLeft
      omega
  | mouseDown point => exact Nat.succ_pos _
  | mouseUp point => exact Nat.succ_pos _
  | dragPath path target => exact Nat.succ_pos _
  | typeNextChar text => cases h
  | typeKeyUp mapping rest => cases h
  | pressKeyUp mapping => cases h
  | scrollStep deltaX deltaY remaining => cases h

end DelayedTask

namespace SnapshotUse

variable {mouse : BezierPoint} {nodes : List AXNode} {random : RandomDraws} {use : SnapshotUse}
  {task : DelayedTask}

/-- A hover has its render view at every step that forwards a point. -/
def FindsView (mouse : BezierPoint) (nodes : List AXNode) (steps : StepSource)
    (use : SnapshotUse) : Prop :=
  ∀ task, use.task mouse nodes (steps 0).2 = some task →
    ∀ i < task.hoverPoints, (steps i).1.hasRenderView = true

theorem findsView_click (mouse : BezierPoint) (nodes : List AXNode) (steps : StepSource)
    (node : Int) : (click node).FindsView mouse nodes steps := by
  intro task htask i hi
  obtain ⟨bounds, -, rfl⟩ := Option.map_eq_some_iff.mp htask
  exact absurd hi (Nat.not_lt_zero i)

theorem findsView_drag (mouse : BezierPoint) (nodes : List AXNode) (steps : StepSource)
    (source target : Int) : (drag source target).FindsView mouse nodes steps := by
  intro task htask i hi
  obtain ⟨bounds, -, rfl⟩ := Option.map_eq_some_iff.mp htask
  exact absurd hi (Nat.not_lt_zero i)

theorem gesture_eq (mouse : BezierPoint) (nodes : List AXNode) (steps : StepSource)
    (use : SnapshotUse) :
    use.gesture mouse nodes steps =
      (use.task mouse nodes (steps 0).2).map (DelayedTask.gesture steps) := by
  cases use with
  | click node =>
      rw [gesture, SnapshotUse.task, Option.map_map]
      rfl
  | hover node =>
      rw [gesture, SnapshotUse.task, Option.map_map]
      congr 1
      funext bounds
      exact (List.append_nil _).symm
  | drag source target =>
      rw [gesture, SnapshotUse.task, Option.map_map]
      rfl

theorem exists_path (h : use.task mouse nodes random = some task) :
    ∃ path onDone, task = .animateMousePath path onDone ∧ path.length ≤ 12 ∧
      onDone.stepsLeft ≤ 13 := by
  have hlength := generateMousePath_length_le
  cases use with
  | click node =>
      obtain ⟨bounds, -, rfl⟩ := Option.map_eq_some_iff.mp h
      exact ⟨_, _, rfl, hlength _ _ _, by simp [PathDone.stepsLeft]⟩
  | hover node =>
      obtain ⟨bounds, -, rfl⟩ := Option.map_eq_some_iff.mp h
      exact ⟨_, _, rfl, hlength _ _ _, by simp [PathDone.stepsLeft]⟩
  | drag source target =>
      obtain ⟨bounds, -, rfl⟩ := Option.map_eq_some_iff.mp h
      exact ⟨_, _, rfl, hlength _ _ _, by simp [PathDone.stepsLeft]⟩

theorem task_isMouse (h : use.task mouse nodes random = some task) : task.isMouse = true := by
  obtain ⟨path, onDone, rfl, -, -⟩ := exists_path h
  rfl

/-- Two paths of at most twelve points, and a step at the end of each. -/
theorem task_stepsLeft_le (h : use.task mouse nodes random = some task) :
    task.stepsLeft ≤ 26 := by
  obtain ⟨path, onDone, rfl, hpath, hdone⟩ := exists_path h
  show path.length + 1 + onDone.stepsLeft ≤ 26
  omega

end SnapshotUse

namespace Interaction

/-- The operation has forwarded these mouse events and has not reported. -/
structure Forwarded (op : Interaction) (events : List TabAction) : Prop where
  results : reportedResults op.log = []
  events : mouseEvents op.log = events

/-- The operation waits for a task of the mouse, and `gesture` is what it has forwarded and what
there is left. -/
structure Gesturing (op : Interaction) (task : DelayedTask) (steps : StepSource)
    (gesture : List TabAction) : Prop where
  waitingFor : op.waitingFor = some (.task task)
  isMouse : task.isMouse = true
  results : reportedResults op.log = []
  events : mouseEvents op.log ++ task.gesture steps = gesture

/-- The operation has reported once, and success only after all of `gesture`. -/
structure Gestured (op : Interaction) (gesture : List TabAction) : Prop where
  waitingFor : op.waitingFor = none
  reports : ∃ result, reportedResults op.log = [result] ∧
    (result.isOk = true → mouseEvents op.log = gesture)

/-- The operation has reported an error, once. -/
structure Failed (op : Interaction) : Prop where
  waitingFor : op.waitingFor = none
  reports : ∃ result, reportedResults op.log = [result] ∧ result.isOk = false

/-- An error promises nothing. -/
theorem Failed.reports_of_ok {op : Interaction} (h : op.Failed) (P : Prop) :
    ∃ result, reportedResults op.log = [result] ∧ (result.isOk = true → P) := by
  obtain ⟨result, hresults, herror⟩ := h.reports
  refine ⟨result, hresults, ?_⟩
  intro hok
  rw [herror] at hok
  cases hok

theorem Failed.gestured {op : Interaction} (h : op.Failed) (gesture : List TabAction) :
    op.Gestured gesture :=
  ⟨h.waitingFor, h.reports_of_ok _⟩

/-- What a step makes of an operation that waits for `task`: it is over, or it waits for the next
task. -/
def Advances (task : DelayedTask) (steps : StepSource) (gesture : List TabAction)
    (op : Interaction) : Prop :=
  op.Gestured gesture ∨ ∃ next, op.Gesturing next steps gesture ∧
    next.stepsLeft < task.stepsLeft ∧ next.hoverPoints = task.hoverPoints - 1

variable {op : Interaction} {view : TabView} {events gesture : List TabAction}
  {task : DelayedTask} {steps : StepSource}

namespace Forwarded

theorem act (h : op.Forwarded events) (action : TabAction) (haction : action.isMouse = false) :
    (op.act action).Forwarded events where
  results := by
    rw [act_log, reportedResults_append, h.results]
    rfl
  events := by
    have hnone : mouseEvents [.acted action] = [] := by
      simp [mouseEvents, tabActions, haction]
    rw [act_log, mouseEvents_append, h.events, hnone, List.append_nil]

theorem forward (h : op.Forwarded events) (action : TabAction) (haction : action.isMouse = true) :
    (op.act action).Forwarded (events ++ [action]) where
  results := by
    rw [act_log, reportedResults_append, h.results]
    rfl
  events := by
    have hone : mouseEvents [.acted action] = [action] := by
      simp [mouseEvents, tabActions, haction]
    rw [act_log, mouseEvents_append, h.events, hone]

theorem evaluateWithDevTools (h : op.Forwarded events) (view : TabView) (script : PageScript) :
    (op.evaluateWithDevTools view script).1.Forwarded events := by
  rw [Interaction.evaluateWithDevTools]
  split
  · exact h.act _ rfl
  · exact (h.act _ rfl).act _ rfl

theorem fails (h : op.Forwarded events) {status : BrowserStatus}
    (hstatus : status.isOk = false) : (op.reportStatus status).Failed where
  waitingFor := rfl
  reports := by
    refine ⟨.status status, ?_, hstatus⟩
    rw [reportStatus, report_log, reportedResults_append, h.results]
    rfl

theorem succeeds (h : op.Forwarded events) : (op.reportStatus .ok).Gestured events where
  waitingFor := rfl
  reports := by
    refine ⟨.status .ok, ?_, ?_⟩
    · rw [reportStatus, report_log, reportedResults_append, h.results]
      rfl
    · intro _
      rw [reportStatus, report_log, mouseEvents_append, h.events]
      exact List.append_nil _

theorem suspend (h : op.Forwarded events) (htask : task.isMouse = true)
    (hgesture : events ++ task.gesture steps = gesture) :
    (op.suspend (.task task)).Gesturing task steps gesture where
  waitingFor := rfl
  isMouse := htask
  results := h.results
  events := by
    rw [← hgesture, ← h.events]
    rfl

/-- The operation goes on to `next`. -/
theorem advances (h : op.Forwarded events) (next : DelayedTask) (hnext : next.isMouse = true)
    (hgesture : events ++ next.gesture steps = gesture) (hsteps : next.stepsLeft < task.stepsLeft)
    (hpoints : next.hoverPoints = task.hoverPoints - 1) :
    Advances task steps gesture (op.suspend (.task next)) :=
  .inr ⟨next, h.suspend hnext hgesture, hsteps, hpoints⟩

/-- Without a render view the operation is over. -/
theorem withRenderView (h : op.Forwarded events) {next : Interaction → Interaction}
    (hnext : ∀ op : Interaction, op.Forwarded events → Advances task steps gesture (next op)) :
    Advances task steps gesture (op.withRenderView view next) := by
  rw [Interaction.withRenderView]
  split
  · exact .inl (((h.act _ rfl).fails rfl).gestured gesture)
  · exact hnext _ (h.act _ rfl)

/-- A path without its render view ends the operation, other than a hover, with an error. -/
theorem runPathDone_lost {random : RandomDraws} {onDone : PathDone} (h : op.Forwarded events)
    (hlost : view.hasRenderView = false) (hdone : onDone ≠ .hover) :
    (op.runPathDone view random onDone).Failed := by
  have hfails : ((op.act .getRenderWidgetHostView).reportStatus noRenderView).Failed :=
    (h.act _ rfl).fails rfl
  cases onDone with
  | click point => simpa [Interaction.runPathDone, Interaction.withRenderView, hlost] using hfails
  | hover => exact absurd rfl hdone
  | dragStart source target =>
      simpa [Interaction.runPathDone, Interaction.withRenderView, hlost] using hfails
  | dragEnd target =>
      simpa [Interaction.runPathDone, Interaction.withRenderView, hlost] using hfails

variable (steps)

/-- The step at the end of a path. -/
theorem runPathDone (h : op.Forwarded events) (onDone : PathDone) :
    Advances (.animateMousePath [] onDone) (steps.after 1) (events ++ onDone.gesture steps)
      (op.runPathDone (steps 0).1 (steps 0).2 onDone) := by
  cases onDone with
  | click point =>
      apply h.withRenderView
      intro op hop
      exact hop.advances (.mouseDown point) rfl rfl (Nat.lt_succ_self 2) rfl
  | hover =>
      show Advances _ _ (events ++ []) (op.reportStatus .ok)
      rw [List.append_nil]
      exact .inl h.succeeds
  | dragStart source target =>
      simp only [Interaction.runPathDone]
      apply h.withRenderView
      intro op hop
      have hpressed : (op.forwardMouseButton .mouseDown source).Forwarded
          (events ++ [.forwardMouseButton .mouseDown source]) := hop.forward _ rfl
      apply (hpressed.evaluateWithDevTools _ _).advances _ rfl
      · simp [DelayedTask.gesture, PathDone.gesture]
      · have hlength := generateMousePath_length_le (steps 0).2.double source target
        simp only [DelayedTask.stepsLeft, PathDone.stepsLeft, List.length_nil]
        omega
      · rfl
  | dragEnd target =>
      simp only [Interaction.runPathDone]
      apply h.withRenderView
      intro op hop
      have hreleased : (op.forwardMouseButton .mouseUp target).Forwarded
          (events ++ [.forwardMouseButton .mouseUp target]) := hop.forward _ rfl
      exact .inl (hreleased.evaluateWithDevTools _ _).succeeds

/-- A step that forwards a point. -/
theorem movePoint (h : op.Forwarded events) (random : RandomDraws) (point : BezierPoint)
    (rest : List BezierPoint) (onDone : PathDone) (hview : view.hasRenderView = true) :
    (op.animateMousePath view random (point :: rest) onDone).Gesturing
      (.animateMousePath rest onDone) (steps.after 1)
      (events ++ (DelayedTask.animateMousePath (point :: rest) onDone).gesture steps) := by
  have hmoved : ((op.act .getRenderWidgetHostView).forwardMouseMove point).Forwarded
      (events ++ [.forwardMouseMove point]) :=
    have hforwarded := (h.act .getRenderWidgetHostView rfl).forward
      (.forwardMouseMove point) rfl
    ⟨hforwarded.results, hforwarded.events⟩
  rw [Interaction.animateMousePath, hview]
  apply hmoved.suspend rfl
  simp [DelayedTask.gesture, movesAlong, StepSource.after_after, Nat.add_comm]

/-- Only a hover that has points left needs the render view. -/
theorem animateMousePath (h : op.Forwarded events) (path : List BezierPoint) (onDone : PathDone)
    (hview : onDone = .hover → path ≠ [] → (steps 0).1.hasRenderView = true) :
    Advances (.animateMousePath path onDone) (steps.after 1)
      (events ++ (DelayedTask.animateMousePath path onDone).gesture steps)
      (op.animateMousePath (steps 0).1 (steps 0).2 path onDone) := by
  cases path with
  | nil => exact h.runPathDone steps onDone
  | cons point rest =>
      cases hlost : (steps 0).1.hasRenderView with
      | false =>
          have hdone : onDone ≠ .hover := by
            intro hhover
            rw [hview hhover (List.cons_ne_nil _ _)] at hlost
            cases hlost
          rw [Interaction.animateMousePath, hlost]
          have hgot := h.act .getRenderWidgetHostView rfl
          exact .inl ((hgot.runPathDone_lost hlost hdone).gestured _)
      | true =>
          refine .inr ⟨_, h.movePoint steps _ point rest onDone hlost, ?_, ?_⟩
          · simp only [DelayedTask.stepsLeft, List.length_cons]
            omega
          · cases onDone <;> rfl

theorem runTask (h : op.Forwarded events) (htask : task.isMouse = true)
    (hview : 0 < task.hoverPoints → (steps 0).1.hasRenderView = true) :
    Advances task (steps.after 1) (events ++ task.gesture steps)
      (op.runTask (steps 0).1 (steps 0).2 task) := by
  cases task with
  | animateMousePath path onDone =>
      apply h.animateMousePath steps path onDone
      intro hhover hpath
      subst hhover
      exact hview (List.length_pos_iff.mpr hpath)
  | mouseDown point =>
      rw [Interaction.runTask]
      apply h.withRenderView
      intro op hop
      have hpressed : (op.forwardMouseButton .mouseDown point).Forwarded
          (events ++ [.forwardMouseButton .mouseDown point]) := hop.forward _ rfl
      apply hpressed.advances (.mouseUp point) rfl
      · simp [DelayedTask.gesture]
      · exact Nat.lt_succ_self 1
      · rfl
  | mouseUp point =>
      rw [Interaction.runTask]
      apply h.withRenderView
      intro op hop
      exact .inl (hop.forward (.forwardMouseButton .mouseUp point) rfl).succeeds
  | dragPath path target =>
      have hpath := h.animateMousePath steps path (.dragEnd target) (by simp)
      exact hpath
  | typeNextChar text => cases htask
  | typeKeyUp mapping rest => cases htask
  | pressKeyUp mapping => cases htask
  | scrollStep deltaX deltaY remaining => cases htask

end Forwarded

section Runs

variable (chromium : Chromium)

theorem Gesturing.resumed (h : op.Gesturing task steps gesture) :
    ({ op with waitingFor := none } : Interaction).Forwarded (mouseEvents op.log) :=
  ⟨h.results, rfl⟩

theorem Gesturing.step (h : op.Gesturing task steps gesture)
    (hview : 0 < task.hoverPoints → (steps 0).1.hasRenderView = true) :
    Advances task (steps.after 1) gesture
      (op.step chromium (.runTask (steps 0).1 (steps 0).2)) := by
  have hstep := h.resumed.runTask steps h.isMouse hview
  rw [h.events] at hstep
  simpa only [Interaction.step, h.waitingFor] using hstep

theorem Gestured.run (h : op.Gestured gesture) (n : Nat) :
    op.run chromium (steps.tasks n) = op :=
  run_taskInputs_of_idle chromium (by simp [h.waitingFor]) _

/-- An operation that keeps its view ends after the last step that is left, or waits. -/
theorem Gesturing.run (h : op.Gesturing task steps gesture)
    (hview : ∀ i < task.hoverPoints, (steps i).1.hasRenderView = true) (n : Nat) :
    (op.run chromium (steps.tasks n)).Gestured gesture ∨
      ∃ next, (op.run chromium (steps.tasks n)).Gesturing next (steps.after n) gesture ∧
        n + next.stepsLeft ≤ task.stepsLeft := by
  induction n generalizing op task steps with
  | zero =>
      have hnone : steps.after 0 = steps := by
        funext i
        exact congrArg steps (Nat.zero_add i)
      rw [hnone]
      exact .inr ⟨task, h, by omega⟩
  | succ n ih =>
      rw [StepSource.tasks_succ, run_cons]
      rcases h.step chromium (hview 0) with hdone | ⟨next, hnext, hsteps, hpoints⟩
      · left
        rw [hdone.run chromium n]
        exact hdone
      · have hrest : ∀ i < next.hoverPoints, (steps.after 1 i).1.hasRenderView = true := by
          intro i hi
          exact hview (1 + i) (by omega)
        rcases ih hnext hrest with hdone | ⟨last, hlast, hleft⟩
        · exact .inl hdone
        · rw [StepSource.after_after, Nat.add_comm] at hlast
          exact .inr ⟨last, hlast, by omega⟩

/-- A hover that does not find its view is over, and reports success. -/
theorem Gesturing.hover_lost {path : List BezierPoint}
    (h : op.Gesturing (.animateMousePath path .hover) steps gesture) {i : Nat}
    (hi : i < path.length) (hlost : (steps i).1.hasRenderView = false) {n : Nat} (hn : i < n) :
    let hovered := op.run chromium (steps.tasks n)
    hovered.waitingFor = none ∧ reportedResults hovered.log = [.status .ok] ∧
      mouseEvents hovered.log ≠ gesture := by
  induction path generalizing op steps i n with
  | nil => exact absurd hi (Nat.not_lt_zero i)
  | cons point rest ih =>
      obtain ⟨n, rfl⟩ : ∃ m, n = m + 1 := ⟨n - 1, by omega⟩
      have hstep : op.step chromium (.runTask (steps 0).1 (steps 0).2) =
          ({ op with waitingFor := none } : Interaction).animateMousePath (steps 0).1 (steps 0).2
            (point :: rest) .hover := by
        simp only [Interaction.step, h.waitingFor, Interaction.runTask]
      rw [StepSource.tasks_succ, run_cons, hstep]
      cases hfirst : (steps 0).1.hasRenderView with
      | false =>
          have hgot := h.resumed.act .getRenderWidgetHostView rfl
          have hdone := hgot.succeeds
          have hovered : ({ op with waitingFor := none } : Interaction).animateMousePath
              (steps 0).1 (steps 0).2 (point :: rest) .hover =
              (({ op with waitingFor := none } : Interaction).act
                .getRenderWidgetHostView).reportStatus .ok := by
            rw [Interaction.animateMousePath, hfirst]
            rfl
          rw [hovered, hdone.run chromium n]
          refine ⟨rfl, ?_, ?_⟩
          · rw [reportStatus, report_log, reportedResults_append, hgot.results]
            rfl
          · rw [reportStatus, report_log, mouseEvents_append, hgot.events, ← h.events]
            simp [mouseEvents, tabActions, DelayedTask.gesture, movesAlong]
      | true =>
          obtain ⟨j, rfl⟩ : ∃ j, i = 1 + j := by
            cases i with
            | zero =>
                rw [hfirst] at hlost
                cases hlost
            | succ j => exact ⟨j, Nat.add_comm j 1⟩
          have hnext := h.resumed.movePoint steps (steps 0).2 point rest .hover hfirst
          rw [h.events] at hnext
          simp only [List.length_cons] at hi
          exact ih hnext (by omega) hlost (by omega)

/-- The nodes are not found, or their task is run at once. -/
theorem Forwarded.onAXTreeSnapshot (h : op.Forwarded events) (use : SnapshotUse)
    (view : TabView) (random : RandomDraws) (nodes : List AXNode) :
    (use.task op.mouse nodes random = none ∧
        (op.onAXTreeSnapshot view random nodes use).Failed) ∨
      ∃ task, use.task op.mouse nodes random = some task ∧
        op.onAXTreeSnapshot view random nodes use = op.runTask view random task := by
  cases use with
  | click node =>
      simp only [Interaction.onAXTreeSnapshot, SnapshotUse.task]
      cases nodeBounds nodes node with
      | none => exact .inl ⟨rfl, h.fails rfl⟩
      | some bounds => exact .inr ⟨_, rfl, rfl⟩
  | hover node =>
      simp only [Interaction.onAXTreeSnapshot, SnapshotUse.task]
      cases nodeBounds nodes node with
      | none => exact .inl ⟨rfl, h.fails rfl⟩
      | some bounds => exact .inr ⟨_, rfl, rfl⟩
  | drag source target =>
      simp only [Interaction.onAXTreeSnapshot, SnapshotUse.task]
      cases dragBounds source target nodes none none with
      | none => exact .inl ⟨rfl, h.fails rfl⟩
      | some bounds => exact .inr ⟨_, rfl, rfl⟩

end Runs

section Requests

variable {ρ : Type} [BrowserRuntime ρ] (rt : ρ) (targetId : Option String)
  (mouse : BezierPoint) (random : RandomDraws) {r : InteractionRequest}

theorem start_forwarded : (start mouse).Forwarded [] := ⟨rfl, rfl⟩

/-- The operation waits for the tree in which `use` looks for its nodes. -/
structure AwaitsTree (mouse : BezierPoint) (use : SnapshotUse) (op : Interaction) : Prop where
  position : op.mouse = mouse
  waitingFor : op.waitingFor = some (.axSnapshot use)
  forwarded : op.Forwarded []

theorem performAction_awaitsTree (view : TabView) (node : Int) (use : SnapshotUse) :
    let op := BrowserController.performAction view [.scrollToMakeVisible] node
      (BrowserController.requestAXTreeSnapshot use) (start mouse)
    (view.hasMainFrame = false ∧ op.Failed) ∨
      (view.hasMainFrame = true ∧ op.AwaitsTree mouse use) := by
  have hframed := (start_forwarded mouse).act .getPrimaryMainFrame rfl
  cases hframe : view.hasMainFrame with
  | false =>
      simp only [BrowserController.performAction, hframe]
      exact .inl ⟨trivial, hframed.fails rfl⟩
  | true =>
      simp only [BrowserController.performAction, hframe]
      have hasked := (hframed.act (.accessibilityPerformAction
        .scrollToMakeVisible node) rfl).act .requestAXTreeSnapshot rfl
      exact .inr ⟨trivial, rfl, rfl, hasked.results, hasked.events⟩

/-- A request at nodes fails at once, or it waits for the tree. -/
def StartsAtNodes (rt : ρ) (targetId : Option String) (view : TabView) (mouse : BezierPoint)
    (r : InteractionRequest) (op : Interaction) : Prop :=
  (op.Failed ∧ ∀ nodes steps, r.FindsView rt targetId view mouse nodes steps) ∨
    ∃ use, r.nodeUse = some use ∧ op.AwaitsTree mouse use ∧
      ∀ nodes steps, r.FindsView rt targetId view mouse nodes steps ↔
        use.FindsView mouse nodes steps

variable (view : TabView)

theorem click_startsAtNodes {ref : String} (hdom : parseDomRef ref = none) :
    StartsAtNodes rt targetId view mouse (.click ref)
      (request rt targetId view random mouse (.click ref)) := by
  have hstart := start_forwarded mouse
  simp only [request, BrowserController.click, BrowserController.onTab, hdom]
  cases BrowserController.resolveWebContents rt targetId with
  | none => exact .inl ⟨hstart.fails rfl, fun _ _ => trivial⟩
  | some page =>
  cases hnode : parseRef ref with
  | none => exact .inl ⟨hstart.fails rfl, fun _ _ => trivial⟩
  | some node =>
  rcases performAction_awaitsTree mouse view node (.click node) with ⟨-, hfailed⟩ | ⟨-, hawaits⟩
  · exact .inl ⟨hfailed, fun _ _ => trivial⟩
  · refine .inr ⟨.click node, by simp [InteractionRequest.nodeUse, hnode], hawaits, ?_⟩
    intro nodes steps
    exact iff_of_true trivial (SnapshotUse.findsView_click mouse nodes steps node)

theorem hover_startsAtNodes {ref : String} (hdom : parseDomRef ref = none) :
    StartsAtNodes rt targetId view mouse (.hover ref)
      (request rt targetId view random mouse (.hover ref)) := by
  have hstart := start_forwarded mouse
  simp only [request, BrowserController.hover, BrowserController.onTab, hdom]
  cases hpage : BrowserController.resolveWebContents rt targetId with
  | none =>
      refine .inl ⟨hstart.fails rfl, ?_⟩
      intro nodes steps page node bounds hpage'
      simp [hpage] at hpage'
  | some page =>
  cases hnode : parseRef ref with
  | none =>
      refine .inl ⟨hstart.fails rfl, ?_⟩
      intro nodes steps page node bounds hpage' hframe hnode'
      simp [hnode] at hnode'
  | some node =>
  rcases performAction_awaitsTree mouse view node (.hover node) with
    ⟨hframe, hfailed⟩ | ⟨hframe, hawaits⟩
  · refine .inl ⟨hfailed, ?_⟩
    intro nodes steps page node bounds hpage' hframe'
    simp [hframe] at hframe'
  · refine .inr ⟨.hover node, by simp [InteractionRequest.nodeUse, hnode], hawaits, ?_⟩
    intro nodes steps
    constructor
    · intro h task htask
      obtain ⟨bounds, hbounds, rfl⟩ := Option.map_eq_some_iff.mp htask
      exact h page node bounds hpage hframe hnode hbounds
    · intro h page' node' bounds hpage' hframe' hnode' hbounds
      obtain rfl : node = node' := by simpa [hnode] using hnode'
      exact h _ (Option.map_eq_some_iff.mpr ⟨bounds, hbounds, rfl⟩)

theorem drag_startsAtNodes {startRef endRef : String} (hstartDom : parseDomRef startRef = none)
    (hendDom : parseDomRef endRef = none) :
    StartsAtNodes rt targetId view mouse (.drag startRef endRef)
      (request rt targetId view random mouse (.drag startRef endRef)) := by
  have hstart := start_forwarded mouse
  simp only [request, BrowserController.drag, BrowserController.onTab, hstartDom, hendDom]
  cases BrowserController.resolveWebContents rt targetId with
  | none => exact .inl ⟨hstart.fails rfl, fun _ _ => trivial⟩
  | some page =>
  cases hsource : parseRef startRef with
  | none => exact .inl ⟨hstart.fails rfl, fun _ _ => trivial⟩
  | some source =>
  cases htarget : parseRef endRef with
  | none => exact .inl ⟨hstart.fails rfl, fun _ _ => trivial⟩
  | some target =>
  have hasked := hstart.act .requestAXTreeSnapshot rfl
  refine .inr ⟨.drag source target, ?_, ⟨rfl, rfl, hasked.results, hasked.events⟩, ?_⟩
  · simp [InteractionRequest.nodeUse, hsource, htarget]
  · intro nodes steps
    exact iff_of_true trivial (SnapshotUse.findsView_drag mouse nodes steps source target)

theorem request_startsAtNodes (hr : r.AtNodes) :
    StartsAtNodes rt targetId view mouse r (request rt targetId view random mouse r) := by
  cases r with
  | click ref => exact click_startsAtNodes rt targetId mouse random view hr
  | hover ref => exact hover_startsAtNodes rt targetId mouse random view hr
  | drag startRef endRef => exact drag_startsAtNodes rt targetId mouse random view hr.1 hr.2
  | _ => cases hr

/-- The operation reports once, when it ends, and success only after it has been performed. -/
structure ReportsPerformed (performed : List InteractionEvent → Prop) (op : Interaction) :
    Prop where
  pending : op.waitingFor ≠ none → reportedResults op.log = []
  ended : op.waitingFor = none → ∃ result, reportedResults op.log = [result] ∧
    (result.isOk = true → performed op.log)

theorem Failed.reportsPerformed {op : Interaction} (h : op.Failed)
    (performed : List InteractionEvent → Prop) : op.ReportsPerformed performed where
  pending := fun hwaiting => absurd h.waitingFor hwaiting
  ended := fun _ => h.reports_of_ok _

theorem Gesturing.reportsPerformed {op : Interaction} {task : DelayedTask} {steps : StepSource}
    {gesture : List TabAction} (h : op.Gesturing task steps gesture)
    (performed : List InteractionEvent → Prop) : op.ReportsPerformed performed where
  pending := fun _ => h.results
  ended := by
    intro hended
    rw [h.waitingFor] at hended
    cases hended

theorem Gestured.reportsPerformed {op : Interaction} {use : SnapshotUse} {nodes : List AXNode}
    {steps : StepSource} {gesture : List TabAction} (h : op.Gestured gesture)
    (huse : r.nodeUse = some use) (hgesture : use.gesture mouse nodes steps = some gesture) :
    op.ReportsPerformed (fun log => r.Performed mouse nodes steps log) where
  pending := fun hwaiting => absurd h.waitingFor hwaiting
  ended := by
    intro _
    obtain ⟨result, hresult, hevents⟩ := h.reports
    refine ⟨result, hresult, ?_⟩
    intro hok
    exact ⟨use, huse, by rw [hevents hok, hgesture]⟩

/-- A success with mouse events left out breaks the promise. -/
theorem not_reportsPerformed {op : Interaction} {use : SnapshotUse} {nodes : List AXNode}
    {steps : StepSource} {gesture : List TabAction} (huse : r.nodeUse = some use)
    (hgesture : use.gesture mouse nodes steps = some gesture)
    (hended : op.waitingFor = none ∧ reportedResults op.log = [.status .ok] ∧
      mouseEvents op.log ≠ gesture) :
    ¬ op.ReportsPerformed (fun log => r.Performed mouse nodes steps log) := by
  intro hreport
  obtain ⟨hwaiting, hresults, hevents⟩ := hended
  obtain ⟨result, hresult, hperformed⟩ := hreport.ended hwaiting
  obtain rfl : OperationResult.status .ok = result := by simpa [hresults] using hresult
  obtain ⟨use', huse', hall⟩ := hperformed rfl
  obtain rfl : use = use' := Option.some_inj.mp (huse.symm.trans huse')
  rw [hgesture] at hall
  exact hevents (Option.some_inj.mp hall).symm

/-- The operation under way when the tree has arrived, after `n` more steps. -/
def treeRun (chromium : Chromium) (op : Interaction) (nodes : List AXNode) (steps : StepSource)
    (n : Nat) : Interaction :=
  op.run chromium (.axTree nodes (steps 0).1 (steps 0).2 :: (steps.after 1).tasks n)

theorem Failed.treeRun (chromium : Chromium) {op : Interaction} (h : op.Failed)
    (nodes : List AXNode) (steps : StepSource) (n : Nat) :
    op.treeRun chromium nodes steps n = op := by
  have hidle : op.step chromium (.axTree nodes (steps 0).1 (steps 0).2) = op := by
    simp only [Interaction.step, h.waitingFor]
  rw [Interaction.treeRun, run_cons, hidle]
  exact (h.gestured []).run chromium n

/-- The tree lets the operation fail, or start its mouse. -/
theorem AwaitsTree.treeRun (chromium : Chromium) {op : Interaction} {use : SnapshotUse}
    (h : op.AwaitsTree mouse use) (nodes : List AXNode) (steps : StepSource) :
    (use.task mouse nodes (steps 0).2 = none ∧
        ∀ n, (op.treeRun chromium nodes steps n).Failed) ∨
      ∃ (task : DelayedTask) (started : Interaction), use.task mouse nodes (steps 0).2 = some task ∧
        started.Gesturing task steps (task.gesture steps) ∧
        ∀ n, op.treeRun chromium nodes steps n = started.run chromium (steps.tasks (n + 1)) := by
  have hposition := h.position
  subst hposition
  have hresumed : ({ op with waitingFor := none } : Interaction).Forwarded [] :=
    ⟨h.forwarded.results, h.forwarded.events⟩
  have hstep : op.step chromium (.axTree nodes (steps 0).1 (steps 0).2) =
      ({ op with waitingFor := none } : Interaction).onAXTreeSnapshot (steps 0).1 (steps 0).2
        nodes use := by
    simp only [Interaction.step, h.waitingFor]
  have htree := hresumed.onAXTreeSnapshot use (steps 0).1 (steps 0).2 nodes
  rw [← hstep] at htree
  rcases htree with ⟨hnone, hfailed⟩ | ⟨task, htask, hrun⟩
  · refine .inl ⟨hnone, ?_⟩
    intro n
    rw [Interaction.treeRun, run_cons, (hfailed.gestured []).run chromium n]
    exact hfailed
  · refine .inr ⟨task, ({ op with waitingFor := none } : Interaction).suspend (.task task), htask,
      hresumed.suspend (SnapshotUse.task_isMouse htask) rfl, ?_⟩
    intro n
    rw [Interaction.treeRun, run_cons, hrun, StepSource.tasks_succ, run_cons]
    rfl

/-- An operation at nodes reports once and is over after 25 tasks, and it reports success only after
all of its mouse events: this holds of every click and every drag, and of a hover exactly when it
finds the render view at each of its points. -/
theorem mouseOperation_reportsPerformed_iff (chromium : Chromium) (hr : r.AtNodes)
    (nodes : List AXNode) (steps : StepSource) :
    (∀ n, ((request rt targetId view random mouse r).treeRun chromium nodes steps
        n).ReportsPerformed (fun log => r.Performed mouse nodes steps log) ∧
      (25 ≤ n → ((request rt targetId view random mouse r).treeRun chromium nodes steps
        n).waitingFor = none)) ↔
      r.FindsView rt targetId view mouse nodes steps := by
  rcases request_startsAtNodes rt targetId mouse random view hr with
    ⟨hfailed, hfinds⟩ | ⟨use, huse, hawaits, hfinds⟩
  · refine iff_of_true ?_ (hfinds nodes steps)
    intro n
    rw [hfailed.treeRun chromium]
    exact ⟨hfailed.reportsPerformed _, fun _ => hfailed.waitingFor⟩
  rw [hfinds nodes steps]
  rcases hawaits.treeRun mouse chromium nodes steps with
    ⟨hnone, hfailed⟩ | ⟨task, started, htask, hgesturing, hrun⟩
  · refine iff_of_true ?_ ?_
    · intro n
      exact ⟨(hfailed n).reportsPerformed _, fun _ => (hfailed n).waitingFor⟩
    · intro task htask
      rw [hnone] at htask
      cases htask
  have hgesture : use.gesture mouse nodes steps = some (task.gesture steps) := by
    rw [SnapshotUse.gesture_eq, htask, Option.map_some]
  constructor
  · intro hreports task' htask' i hi
    obtain rfl : task = task' := Option.some_inj.mp (htask.symm.trans htask')
    by_contra hlost
    have hlost : (steps i).1.hasRenderView = false := by simpa using hlost
    obtain ⟨path, rfl⟩ := DelayedTask.exists_of_hoverPoints_pos (Nat.zero_lt_of_lt hi)
    have hhovered := hgesturing.hover_lost chromium hi hlost (Nat.lt_succ_self i)
    apply not_reportsPerformed mouse huse hgesture hhovered
    rw [← hrun]
    exact (hreports i).1
  · intro hview n
    rw [hrun]
    rcases hgesturing.run chromium (hview task htask) (n + 1) with
      hdone | ⟨next, hnext, hsteps⟩
    · exact ⟨hdone.reportsPerformed mouse huse hgesture, fun _ => hdone.waitingFor⟩
    · refine ⟨hnext.reportsPerformed _, ?_⟩
      intro hn
      have hleft := SnapshotUse.task_stepsLeft_le htask
      have hpos := DelayedTask.stepsLeft_pos hnext.isMouse
      omega

end Requests

/-- A tree with the node of a button. -/
def shopTree : List AXNode := [⟨7, ⟨100, 100, 80, 20⟩⟩]

/-- A page whose render view is missing. -/
def viewlessPage : TabView := { shopView with hasRenderView := false }

/-- A hover on a page without its render view forwards nothing and reports success. -/
theorem hover_without_view_succeeds :
    ¬ ∀ (rt : HeadlessRuntime) (targetId : Option String) (mouse : BezierPoint)
        (random : RandomDraws) (r : InteractionRequest) (chromium : Chromium) (view : TabView)
        (nodes : List AXNode) (steps : StepSource) (n : Nat), r.AtNodes →
        ((request rt targetId view random mouse r).treeRun chromium nodes steps
          n).ReportsPerformed (fun log => r.Performed mouse nodes steps log) := by
  intro h
  have hdom : parseDomRef "7" = none := by decide
  have hnode : parseRef "7" = some 7 := by decide
  have hreport := h shopRuntime none ⟨500, 400⟩ shopDraws (.hover "7") shopChromium shopView
    shopTree (fun _ => (viewlessPage, shopDraws)) 0 hdom
  have hawaits : (request shopRuntime none shopView shopDraws ⟨500, 400⟩
      (.hover "7")).AwaitsTree ⟨500, 400⟩ (.hover 7) := by
    simp only [request, BrowserController.hover, BrowserController.onTab, hdom, hnode]
    have hframe := performAction_awaitsTree ⟨500, 400⟩ shopView 7 (.hover 7)
    exact (hframe.resolve_left (by simp [shopView])).2
  rcases hawaits.treeRun ⟨500, 400⟩ shopChromium shopTree (fun _ => (viewlessPage, shopDraws)) with
    ⟨hnone, -⟩ | ⟨task, started, htask, hgesturing, hrun⟩
  · simp [SnapshotUse.task, shopTree, nodeBounds] at hnone
  have hgesture : (SnapshotUse.hover 7).gesture ⟨500, 400⟩ shopTree
      (fun _ => (viewlessPage, shopDraws)) =
      some (task.gesture fun _ => (viewlessPage, shopDraws)) := by
    rw [SnapshotUse.gesture_eq, htask, Option.map_some]
  rw [SnapshotUse.task] at htask
  obtain ⟨bounds, -, rfl⟩ := Option.map_eq_some_iff.mp htask
  have hpoints : 0 < (generateMousePath shopDraws.double ⟨500, 400⟩ bounds.center).length :=
    List.length_pos_iff.mpr (generateMousePath_ne_nil _ _ _)
  have hhovered := hgesturing.hover_lost shopChromium hpoints rfl Nat.zero_lt_one
  have huse : (InteractionRequest.hover "7").nodeUse = some (.hover 7) := by
    simp [InteractionRequest.nodeUse, hnode]
  apply not_reportsPerformed ⟨500, 400⟩ huse hgesture hhovered
  rw [← hrun]
  exact hreport

/-- A hover on a page that keeps its render view. -/
theorem hover_sample :
    ((request shopRuntime none shopView shopDraws ⟨500, 400⟩ (.hover "7")).treeRun shopChromium
      shopTree (fun _ => (shopView, shopDraws)) 25).ReportsPerformed
      (fun log => (InteractionRequest.hover "7").Performed ⟨500, 400⟩ shopTree
        (fun _ => (shopView, shopDraws)) log) := by
  have hdom : (InteractionRequest.hover "7").AtNodes := by
    show parseDomRef "7" = none
    decide
  have hiff := mouseOperation_reportsPerformed_iff shopRuntime none ⟨500, 400⟩ shopDraws shopView
    shopChromium hdom shopTree (fun _ => (shopView, shopDraws))
  exact (hiff.mpr (fun _ _ _ _ _ _ _ _ _ => rfl) 25).1

end Interaction

end Browserd
