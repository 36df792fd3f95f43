import Browserd.Core.Interactions

/-!
# Runs of an interaction

An operation from its request to its report, driven by its delayed tasks, the answers of Chromium
and the destruction of its tab, in any order. Until it reports it waits for something.
-/

namespace Browserd

inductive InteractionRequest where
  | click (ref : String)
  | hover (ref : String)
  | type (ref text : String) (clear : Bool)
  | pressKey (key : String)
  | drag (startRef endRef : String)
  | scroll (deltaX deltaY : Int32)
  | screenshot

/-- The delay of the posted task is over, Chromium answers a request, a timer expires, or the tab
is destroyed. -/
inductive InteractionInput where
  | runTask (view : TabView) (random : RandomDraws)
  | axTree (nodes : List AXNode) (view : TabView) (random : RandomDraws)
  | evaluated (outcome : EvaluationOutcome)
  | snapshotFromBrowser (image : SnapshotImage)
  | screenshotTimeout (view : TabView)
  | tabDestroyed

/-- The posted tasks of an operation, one after the other, each with what it finds at the tab. -/
def taskInputs (tasks : List (TabView × RandomDraws)) : List InteractionInput :=
  tasks.map fun task => .runTask task.1 task.2

def reportedResults (log : List InteractionEvent) : List OperationResult :=
  log.filterMap fun | .reported result => some result | _ => none

def tabActions (log : List InteractionEvent) : List TabAction :=
  log.filterMap fun | .acted action => some action | _ => none

namespace Interaction

/-- The first step of an operation, in the stack of its request. -/
def request {ρ : Type} [BrowserRuntime ρ] (rt : ρ) (targetId : Option String) (view : TabView)
    (random : RandomDraws) (mouse : BezierPoint) (request : InteractionRequest) : Interaction :=
  let op := start mouse
  match request with
  | .click ref => BrowserController.click rt targetId ref view op
  | .hover ref => BrowserController.hover rt targetId ref view op
  | .type ref text clear => BrowserController.type rt targetId ref text clear view op
  | .pressKey key => BrowserController.pressKey rt targetId key view op
  | .drag startRef endRef => BrowserController.drag rt targetId startRef endRef view op
  | .scroll deltaX deltaY => BrowserController.scroll rt targetId deltaX deltaY view random op
  | .screenshot => BrowserController.screenshot rt targetId view op

/-- An input that the operation does not wait for does not reach it. -/
def step (chromium : Chromium) (op : Interaction) : InteractionInput → Interaction
  | .runTask view random =>
      match op.waitingFor with
      | some (.task task) => { op with waitingFor := none }.runTask view random task
      | _ => op
  | .axTree nodes view random =>
      match op.waitingFor with
      | some (.axSnapshot use) =>
          { op with waitingFor := none }.onAXTreeSnapshot view random nodes use
      | _ => op
  | .evaluated outcome =>
      let result := evaluationResult chromium outcome
      match op.waitingFor with
      | some .evalStatus => op.reportStatus (evalStatus result)
      | some .changeEvent => op.reportStatus (changeStatus result)
      | some .screenshotFallback => op.report (.screenshot (onDomFallback chromium result))
      | _ => op
  | .snapshotFromBrowser image =>
      match op.waitingFor with
      | some .screenshot => op.report (.screenshot (onSnapshotFromBrowser image))
      | some .screenshotFallback => op.report (.screenshot (onSnapshotFromBrowser image))
      | _ => op
  | .screenshotTimeout view =>
      match op.waitingFor with
      | some .screenshot => { op with waitingFor := none }.startDomFallback chromium view
      | _ => op
  | .tabDestroyed => op.record .tabDestroyed

def run (chromium : Chromium) (op : Interaction) (inputs : List InteractionInput) : Interaction :=
  inputs.foldl (step chromium) op

@[simp] theorem run_cons (chromium : Chromium) (op : Interaction) (input : InteractionInput)
    (inputs : List InteractionInput) :
    op.run chromium (input :: inputs) = (op.step chromium input).run chromium inputs := rfl

@[simp] theorem run_nil (chromium : Chromium) (op : Interaction) : op.run chromium [] = op := rfl

@[simp] theorem run_append (chromium : Chromium) (op : Interaction)
    (inputs later : List InteractionInput) :
    op.run chromium (inputs ++ later) = (op.run chromium inputs).run chromium later :=
  List.foldl_append

/-- No task is posted. -/
theorem run_taskInputs_of_idle (chromium : Chromium) {op : Interaction}
    (h : ∀ task, op.waitingFor ≠ some (.task task)) (tasks : List (TabView × RandomDraws)) :
    op.run chromium (taskInputs tasks) = op := by
  induction tasks with
  | nil => rfl
  | cons task tasks ih =>
      have hidle : op.step chromium (.runTask task.1 task.2) = op := by
        simp only [step]
      rw [taskInputs, List.map_cons, run_cons, hidle]
      exact ih

/-- Nothing has been reported on a tab that lives. -/
structure Unreported (op : Interaction) : Prop where
  results : reportedResults op.log = []
  tabAlive : .tabDestroyed ∉ op.log

/-- The operation is over, and its tab lives. -/
structure Reported (op : Interaction) : Prop where
  waitingFor : op.waitingFor = none
  tabAlive : .tabDestroyed ∉ op.log

/-- A step on a living tab leaves the operation unreported or over. -/
def Proceeds (op : Interaction) : Prop := op.Unreported ∨ op.Reported

variable {op : Interaction} {view : TabView} {random : RandomDraws}

namespace Unreported

theorem act (h : op.Unreported) (action : TabAction) : (op.act action).Unreported where
  results := by simpa [Interaction.act, record, reportedResults] using h.results
  tabAlive := by simpa [Interaction.act, record] using h.tabAlive

theorem suspend (h : op.Unreported) (suspension : Suspension) :
    (op.suspend suspension).Proceeds :=
  .inl ⟨h.results, h.tabAlive⟩

theorem report (h : op.Unreported) (result : OperationResult) : (op.report result).Proceeds :=
  .inr ⟨rfl, by simpa [Interaction.report, record] using h.tabAlive⟩

theorem resume (h : op.Unreported) : ({ op with waitingFor := none } : Interaction).Unreported :=
  ⟨h.results, h.tabAlive⟩

theorem withRenderView (h : op.Unreported) {next : Interaction → Interaction}
    (hnext : ∀ op : Interaction, op.Unreported → (next op).Proceeds) :
    (op.withRenderView view next).Proceeds := by
  rw [Interaction.withRenderView]
  split
  · exact (h.act _).report _
  · exact hnext _ (h.act _)

theorem evaluateWithDevTools (h : op.Unreported) (view : TabView) (script : PageScript) :
    (op.evaluateWithDevTools view script).1.Unreported := by
  rw [Interaction.evaluateWithDevTools]
  split
  · exact h.act _
  · exact (h.act _).act _

theorem evalStatusJS (h : op.Unreported) (script : PageScript) :
    (op.evalStatusJS view script).Proceeds := by
  have heval := h.evaluateWithDevTools view script
  rw [Interaction.evalStatusJS]
  split
  · rename_i op' result heq
    rw [heq] at heval
    exact heval.report _
  · rename_i op' heq
    rw [heq] at heval
    exact heval.suspend _

theorem runPathDone (h : op.Unreported) (onDone : PathDone) :
    (op.runPathDone view random onDone).Proceeds := by
  cases onDone with
  | click point => exact h.withRenderView fun op hop => hop.suspend _
  | hover => exact h.report _
  | dragStart source target =>
      simp only [Interaction.runPathDone]
      apply h.withRenderView
      intro op hop
      exact ((hop.act _).evaluateWithDevTools _ _).suspend _
  | dragEnd target =>
      simp only [Interaction.runPathDone]
      apply h.withRenderView
      intro op hop
      exact ((hop.act _).evaluateWithDevTools _ _).report _

theorem animateMousePath (h : op.Unreported) (path : List BezierPoint) (onDone : PathDone) :
    (op.animateMousePath view random path onDone).Proceeds := by
  cases path with
  | nil => exact h.runPathDone onDone
  | cons point rest =>
      rw [Interaction.animateMousePath]
      split
      · exact (h.act _).runPathDone onDone
      · have hmoved : ((op.act .getRenderWidgetHostView).forwardMouseMove point).Unreported :=
          ⟨((h.act _).act _).results, ((h.act _).act _).tabAlive⟩
        exact hmoved.suspend _

theorem typeNextChar (h : op.Unreported) (text : List UInt8) :
    (op.typeNextChar view text).Proceeds := by
  cases text with
  | nil =>
      have heval := h.evaluateWithDevTools view .changeEvent
      rw [Interaction.typeNextChar]
      split
      · rename_i op' result heq
        rw [heq] at heval
        exact heval.report _
      · rename_i op' heq
        rw [heq] at heval
        exact heval.suspend _
  | cons c rest => exact h.withRenderView fun op hop => ((hop.act _).act _).suspend _

theorem scrollStep (h : op.Unreported) (deltaX deltaY remaining : Int) :
    (op.scrollStep view random deltaX deltaY remaining).Proceeds := by
  rw [Interaction.scrollStep]
  split
  · exact h.report _
  · exact h.withRenderView fun op hop => (hop.act _).suspend _

theorem runTask (h : op.Unreported) (task : DelayedTask) :
    (op.runTask view random task).Proceeds := by
  cases task with
  | animateMousePath path onDone => exact h.animateMousePath path onDone
  | mouseDown point => exact h.withRenderView fun op hop => (hop.act _).suspend _
  | mouseUp point => exact h.withRenderView fun op hop => (hop.act _).report _
  | dragPath path target => exact h.animateMousePath path _
  | typeNextChar text => exact h.typeNextChar text
  | typeKeyUp mapping rest => exact h.withRenderView fun op hop => (hop.act _).suspend _
  | pressKeyUp mapping => exact h.withRenderView fun op hop => (hop.act _).report _
  | scrollStep deltaX deltaY remaining => exact h.scrollStep deltaX deltaY remaining

theorem onAXTreeSnapshot (h : op.Unreported) (nodes : List AXNode) (use : SnapshotUse) :
    (op.onAXTreeSnapshot view random nodes use).Proceeds := by
  cases use with
  | click node =>
      simp only [Interaction.onAXTreeSnapshot]
      split
      · exact h.report _
      · exact h.animateMousePath _ _
  | hover node =>
      simp only [Interaction.onAXTreeSnapshot]
      split
      · exact h.report _
      · exact h.animateMousePath _ _
  | drag source target =>
      simp only [Interaction.onAXTreeSnapshot]
      split
      · exact h.report _
      · exact h.animateMousePath _ _

theorem startDomFallback (h : op.Unreported) (chromium : Chromium) :
    (op.startDomFallback chromium view).Proceeds := by
  have heval := h.evaluateWithDevTools view .canvasScreenshot
  rw [Interaction.startDomFallback]
  split
  · rename_i op' result heq
    rw [heq] at heval
    exact heval.report _
  · rename_i op' heq
    rw [heq] at heval
    exact heval.suspend _

theorem requestAXTreeSnapshot (h : op.Unreported) (use : SnapshotUse) :
    (BrowserController.requestAXTreeSnapshot use op).Proceeds :=
  (h.act _).suspend _

theorem performAction (h : op.Unreported) (actions : List AXAction) (node : Int)
    {next : Interaction → Interaction}
    (hnext : ∀ op : Interaction, op.Unreported → (next op).Proceeds) :
    (BrowserController.performAction view actions node next op).Proceeds := by
  have hactions (actions : List AXAction) (op : Interaction) (hop : op.Unreported) :
      (actions.foldl (fun op action =>
        op.act (.accessibilityPerformAction action node)) op).Unreported := by
    induction actions generalizing op with
    | nil => exact hop
    | cons action actions ih => exact ih _ (hop.act _)
  simp only [BrowserController.performAction]
  split
  · exact (h.act _).report _
  · exact hnext _ (hactions _ _ (h.act _))

theorem onTab {ρ : Type} [BrowserRuntime ρ] (rt : ρ) (targetId : Option String)
    (h : op.Unreported) {body : Interaction → Interaction}
    (hbody : (body op).Proceeds) : (BrowserController.onTab rt targetId body op).Proceeds := by
  rw [BrowserController.onTab]
  split
  · exact h.report _
  · exact hbody

end Unreported

section Requests

variable {ρ : Type} [BrowserRuntime ρ] (rt : ρ) (targetId : Option String)

theorem start_unreported (mouse : BezierPoint) : (start mouse).Unreported where
  results := rfl
  tabAlive := by simp [start]

/-- A request on the reference of a node or of a DOM element. -/
private theorem refRequest (h : op.Unreported) (ref : String) (script : Int → PageScript)
    {onNode : Int → Interaction → Interaction}
    (hnode : ∀ node, (onNode node op).Proceeds) :
    Proceeds (match parseDomRef ref with
      | some index => op.evalStatusJS view (script index)
      | none =>
          match parseRef ref with
          | none => op.reportStatus invalidRef
          | some node => onNode node op) := by
  split
  · exact h.evalStatusJS _
  split
  · exact h.report _
  · exact hnode _

theorem request_proceeds (view : TabView) (random : RandomDraws) (mouse : BezierPoint)
    (r : InteractionRequest) :
    (request rt targetId view random mouse r).Proceeds := by
  have h := start_unreported mouse
  cases r with
  | click ref =>
      simp only [request, BrowserController.click]
      apply h.onTab
      exact refRequest h ref .domClick fun node =>
        h.performAction _ node fun op hop => hop.requestAXTreeSnapshot _
  | hover ref =>
      simp only [request, BrowserController.hover]
      apply h.onTab
      exact refRequest h ref .domHover fun node =>
        h.performAction _ node fun op hop => hop.requestAXTreeSnapshot _
  | type ref text clear =>
      simp only [request, BrowserController.type]
      apply h.onTab
      exact refRequest h ref (fun index => .domType index text clear) fun node =>
        h.performAction _ node fun op hop => hop.suspend _
  | pressKey key =>
      simp only [request, BrowserController.pressKey]
      apply h.onTab
      exact h.withRenderView fun op hop => (hop.act _).suspend _
  | drag startRef endRef =>
      simp only [request, BrowserController.drag]
      apply h.onTab
      split
      · exact h.evalStatusJS _
      · split
        · exact h.requestAXTreeSnapshot _
        · exact h.report _
      · exact h.report _
  | scroll deltaX deltaY =>
      simp only [request, BrowserController.scroll]
      apply h.onTab
      split
      · exact h.report _
      · exact h.scrollStep _ _ _
  | screenshot =>
      simp only [request, BrowserController.screenshot]
      split
      · exact h.report _
      split
      · exact (h.act _).report _
      split
      · exact (h.act _).report _
      · exact ((h.act _).act _).suspend _

end Requests

/-- One step on a living tab. -/
theorem step_proceeds (chromium : Chromium) (h : op.Proceeds) {input : InteractionInput}
    (hinput : input ≠ .tabDestroyed) : (op.step chromium input).Proceeds := by
  rcases h with h | h
  · cases input with
    | runTask view random =>
        simp only [step]
        split
        · exact h.resume.runTask _
        · exact .inl h
    | axTree nodes view random =>
        simp only [step]
        split
        · exact h.resume.onAXTreeSnapshot nodes _
        · exact .inl h
    | evaluated outcome =>
        simp only [step]
        split
        · exact h.report _
        · exact h.report _
        · exact h.report _
        · exact .inl h
    | snapshotFromBrowser image =>
        simp only [step]
        split
        · exact h.report _
        · exact h.report _
        · exact .inl h
    | screenshotTimeout view =>
        simp only [step]
        split
        · exact h.resume.startDomFallback chromium
        · exact .inl h
    | tabDestroyed => exact absurd rfl hinput
  · have hidle : op.step chromium input = op := by
      cases input with
      | tabDestroyed => exact absurd rfl hinput
      | _ => simp [step, h.waitingFor]
    rw [hidle]
    exact .inr h

/-- A run on a living tab. -/
theorem run_proceeds (chromium : Chromium) (h : op.Proceeds) {inputs : List InteractionInput}
    (hinputs : .tabDestroyed ∉ inputs) : (op.run chromium inputs).Proceeds := by
  induction inputs generalizing op with
  | nil => exact h
  | cons input inputs ih =>
      simp only [List.mem_cons, not_or] at hinputs
      exact ih (step_proceeds chromium h (Ne.symm hinputs.1)) hinputs.2

/-- A page that is there. -/
def shopView : TabView := ⟨true, true, true, true⟩

def shopDraws : RandomDraws := ⟨fun _ => 0.5, 0⟩

end Interaction

end Browserd
