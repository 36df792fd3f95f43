import Browserd.Core.ClosedTab
import Browserd.Core.MouseOperations

/-!
# How long an interaction takes

An operation reports once, and no later than after a number of answers that its request fixes,
whatever Chromium answers, whatever the steps find at the tab and whether or not the tab lives.
-/

namespace Browserd

/-- The answers that a task and those that it leads to take, at the most. -/
def DelayedTask.answersLeft : DelayedTask → Nat
  | .animateMousePath path onDone => path.length + 1 + onDone.stepsLeft
  | .mouseDown _ => 2
  | .mouseUp _ => 1
  | .dragPath path _ => path.length + 1
  | .typeNextChar text => 2 * text.length + 2
  | .typeKeyUp _ rest => 2 * rest.length + 3
  | .pressKeyUp _ => 1
  | .scrollStep _ _ remaining => (remaining.toNat + 39) / 40 + 1

/-- A path of at most 12 points starts in the stack of the snapshot. -/
def SnapshotUse.answersLeft : SnapshotUse → Nat
  | .click _ => 15
  | .hover _ => 13
  | .drag _ _ => 26

def Suspension.answersLeft : Suspension → Nat
  | .task posted => posted.answersLeft
  | .axSnapshot use => use.answersLeft
  | .evalStatus => 1
  | .changeEvent => 1
  | .screenshot => 2
  | .screenshotFallback => 1

/-- The answers that the operation of a request takes, at the most. -/
def InteractionRequest.answersLeft : InteractionRequest → Nat
  | .click _ => 15
  | .hover _ => 13
  | .type _ text _ => 2 * text.toUTF8.toList.length + 2
  | .pressKey _ => 1
  | .drag _ _ => 26
  | .scroll deltaX deltaY => (max deltaX.toInt.natAbs deltaY.toInt.natAbs + 39) / 40
  | .screenshot => 2

def Suspension.awaits : Suspension → InteractionInput → Bool
  | .task _, .runTask _ _ => true
  | .axSnapshot _, .axTree _ _ _ => true
  | .evalStatus, .evaluated _ => true
  | .changeEvent, .evaluated _ => true
  | .screenshot, .snapshotFromBrowser _ => true
  | .screenshot, .screenshotTimeout _ => true
  | .screenshotFallback, .snapshotFromBrowser _ => true
  | .screenshotFallback, .evaluated _ => true
  | _, _ => false

theorem Suspension.awaits_iff (suspension : Suspension) (input : InteractionInput) :
    suspension.awaits input = true ↔ suspension.Awaits input := by
  cases suspension <;> cases input <;> simp [awaits, Awaits]

theorem Suspension.answersLeft_pos (suspension : Suspension) : 0 < suspension.answersLeft := by
  cases suspension with
  | task posted =>
      cases posted with
      | animateMousePath path onDone =>
          show 0 < path.length + 1 + onDone.stepsLeft
          omega
      | _ => exact Nat.succ_pos _
  | axSnapshot use => cases use <;> exact Nat.succ_pos _
  | _ => exact Nat.succ_pos _

def OperationResult.Consistent : OperationResult → Prop
  | .status _ => True
  | .screenshot result => result.Consistent

theorem onSnapshotFromBrowser_consistent (image : SnapshotImage) :
    (onSnapshotFromBrowser image).Consistent := by
  have failed (message : String) :
      (BrowserResult.error .screenshotFailed message : BrowserResult (List UInt8)).Consistent :=
    BrowserResult.error_consistent (by decide) message
  rw [onSnapshotFromBrowser]
  split
  · exact failed _
  split
  · exact failed _
  split
  · exact failed _
  · exact BrowserResult.ok_consistent _

theorem onDomFallback_consistent (chromium : Chromium)
    (result : BrowserResult DevToolsEvaluationResult) :
    (onDomFallback chromium result).Consistent := by
  have failed (message : String) :
      (BrowserResult.error .screenshotFailed message : BrowserResult (List UInt8)).Consistent :=
    BrowserResult.error_consistent (by decide) message
  rw [onDomFallback]
  split
  · rename_i hstatus
    exact BrowserResult.passed_consistent (by simpa using hstatus)
  split
  · split
    · dsimp only
      split
      · exact failed _
      split
      · exact failed _
      · exact BrowserResult.ok_consistent _
    · exact failed _
  · exact failed _

namespace Interaction

variable {op : Interaction} {view : TabView} {random : RandomDraws} {n : Nat}

/-- The operation is over and has reported one consistent result, or it has not reported and takes
at most `n` more answers. -/
inductive EndsWithin (n : Nat) (op : Interaction) : Prop
  | finished (waitingFor : op.waitingFor = none) (result : OperationResult)
      (results : reportedResults op.log = [result]) (consistent : result.Consistent)
  | waits (suspension : Suspension) (waitingFor : op.waitingFor = some suspension)
      (results : reportedResults op.log = []) (answers : suspension.answersLeft ≤ n)

def Silent (op : Interaction) : Prop := reportedResults op.log = []

/-- The input is what the operation waits for. -/
def awaits (op : Interaction) (input : InteractionInput) : Bool :=
  op.waitingFor.any fun suspension => suspension.awaits input

/-- How many of the inputs have answered the operation. -/
def answered (chromium : Chromium) (op : Interaction) : List InteractionInput → Nat
  | [] => 0
  | input :: inputs =>
      (if op.awaits input then 1 else 0) + (op.step chromium input).answered chromium inputs

theorem EndsWithin.mono {m : Nat} (h : op.EndsWithin m) (hle : m ≤ n) : op.EndsWithin n := by
  cases h with
  | finished waitingFor result results consistent =>
      exact .finished waitingFor result results consistent
  | waits suspension waitingFor results answers =>
      exact .waits suspension waitingFor results (answers.trans hle)

namespace Silent

theorem act (h : op.Silent) (action : TabAction) : (op.act action).Silent := by
  show reportedResults (op.log ++ [.acted action]) = []
  rw [reportedResults_append, h]
  rfl

theorem suspend (h : op.Silent) {suspension : Suspension} (hn : suspension.answersLeft ≤ n) :
    (op.suspend suspension).EndsWithin n :=
  .waits suspension rfl h hn

theorem report (h : op.Silent) {result : OperationResult} (hresult : result.Consistent) :
    (op.report result).EndsWithin n := by
  refine EndsWithin.finished rfl result ?_ hresult
  rw [report_log, reportedResults_append, h]
  rfl

theorem reportStatus (h : op.Silent) (status : BrowserStatus) :
    (op.reportStatus status).EndsWithin n :=
  h.report trivial

theorem withRenderView (h : op.Silent) {next : Interaction → Interaction}
    (hnext : ∀ op : Interaction, op.Silent → (next op).EndsWithin n) :
    (op.withRenderView view next).EndsWithin n := by
  rw [Interaction.withRenderView]
  split
  · exact (h.act _).reportStatus _
  · exact hnext _ (h.act _)

theorem evaluateWithDevTools (h : op.Silent) (view : TabView) (script : PageScript) :
    (op.evaluateWithDevTools view script).1.Silent := by
  rw [Interaction.evaluateWithDevTools]
  split
  · exact h.act _
  · exact (h.act _).act _

/-- A script whose answer, or the lack of a frame to run it in, ends the operation. -/
theorem evaluation (h : op.Silent) (view : TabView) (script : PageScript)
    (finish : BrowserResult DevToolsEvaluationResult → OperationResult)
    (hfinish : ∀ result, (finish result).Consistent) {suspension : Suspension}
    (hn : suspension.answersLeft ≤ n) :
    EndsWithin n (match op.evaluateWithDevTools view script with
      | (op, some result) => op.report (finish result)
      | (op, none) => op.suspend suspension) := by
  have hscript := h.evaluateWithDevTools view script
  split
  · rename_i op' result heq
    rw [heq] at hscript
    exact hscript.report (hfinish result)
  · rename_i op' heq
    rw [heq] at hscript
    exact hscript.suspend hn

theorem runPathDone (h : op.Silent) (onDone : PathDone) :
    (op.runPathDone view random onDone).EndsWithin onDone.stepsLeft := by
  cases onDone with
  | click point => exact h.withRenderView fun op hop => hop.suspend (Nat.le_refl 2)
  | hover => exact h.reportStatus _
  | dragStart source target =>
      simp only [Interaction.runPathDone]
      apply h.withRenderView
      intro op hop
      apply ((hop.act _).evaluateWithDevTools _ _).suspend
      have hlength := generateMousePath_length_le random.double source target
      show (generateMousePath random.double source target).length + 1 ≤ 13
      omega
  | dragEnd target =>
      simp only [Interaction.runPathDone]
      apply h.withRenderView
      intro op hop
      exact ((hop.act _).evaluateWithDevTools _ _).reportStatus _

/-- The first point is forwarded in the same stack. -/
theorem animateMousePath (h : op.Silent) {path : List BezierPoint} {onDone : PathDone}
    (hn : path.length + onDone.stepsLeft ≤ n) :
    (op.animateMousePath view random path onDone).EndsWithin n := by
  cases path with
  | nil =>
      apply (h.runPathDone onDone).mono
      simpa using hn
  | cons point rest =>
      rw [Interaction.animateMousePath]
      split
      · apply ((h.act _).runPathDone onDone).mono
        omega
      · have hmoved : ((op.act .getRenderWidgetHostView).forwardMouseMove point).Silent :=
          (h.act _).act _
        apply hmoved.suspend
        show rest.length + 1 + onDone.stepsLeft ≤ n
        rw [List.length_cons] at hn
        omega

theorem typeNextChar (h : op.Silent) (text : List UInt8) :
    (op.typeNextChar view text).EndsWithin (2 * text.length + 1) := by
  cases text with
  | nil =>
      exact h.evaluation view .changeEvent (fun r => .status (changeStatus r)) (fun _ => trivial)
        (Nat.le_refl 1)
  | cons c rest =>
      rw [Interaction.typeNextChar]
      apply h.withRenderView
      intro op hop
      apply ((hop.act _).act _).suspend
      show 2 * rest.length + 3 ≤ 2 * (c :: rest).length + 1
      rw [List.length_cons]
      omega

/-- A step scrolls at least 40 pixels, or all that is left. -/
theorem scrollStep (h : op.Silent) (deltaX deltaY remaining : Int) :
    (op.scrollStep view random deltaX deltaY remaining).EndsWithin
      ((remaining.toNat + 39) / 40) := by
  rw [Interaction.scrollStep]
  split
  · exact h.reportStatus _
  · apply h.withRenderView
    intro op hop
    apply (hop.act _).suspend
    show ((remaining - min remaining (40 + random.chunk)).toNat + 39) / 40 + 1 ≤ _
    omega

theorem runTask (h : op.Silent) (task : DelayedTask) :
    (op.runTask view random task).EndsWithin (task.answersLeft - 1) := by
  cases task with
  | animateMousePath path onDone =>
      apply h.animateMousePath
      simp only [DelayedTask.answersLeft]
      omega
  | mouseDown point => exact h.withRenderView fun op hop => (hop.act _).suspend (Nat.le_refl 1)
  | mouseUp point => exact h.withRenderView fun op hop => (hop.act _).reportStatus _
  | dragPath path target => exact h.animateMousePath (Nat.le_refl _)
  | typeNextChar text => exact h.typeNextChar text
  | typeKeyUp mapping rest =>
      exact h.withRenderView fun op hop => (hop.act _).suspend (Nat.le_refl (2 * rest.length + 2))
  | pressKeyUp mapping => exact h.withRenderView fun op hop => (hop.act _).reportStatus _
  | scrollStep deltaX deltaY remaining => exact h.scrollStep deltaX deltaY remaining

theorem onAXTreeSnapshot (h : op.Silent) (nodes : List AXNode) (use : SnapshotUse) :
    (op.onAXTreeSnapshot view random nodes use).EndsWithin (use.answersLeft - 1) := by
  have hpath (rand : Nat → Float) (target : BezierPoint) {onDone : PathDone}
      (hn : 12 + onDone.stepsLeft ≤ use.answersLeft - 1) :
      (op.animateMousePath view random (generateMousePath rand op.mouse target)
        onDone).EndsWithin (use.answersLeft - 1) := by
    apply h.animateMousePath
    have hlength := generateMousePath_length_le rand op.mouse target
    omega
  cases use with
  | click node =>
      simp only [Interaction.onAXTreeSnapshot]
      split
      · exact h.reportStatus _
      · exact hpath _ _ (Nat.le_refl 14)
  | hover node =>
      simp only [Interaction.onAXTreeSnapshot]
      split
      · exact h.reportStatus _
      · exact hpath _ _ (Nat.le_refl 12)
  | drag source target =>
      simp only [Interaction.onAXTreeSnapshot]
      split
      · exact h.reportStatus _
      · exact hpath _ _ (Nat.le_refl 25)

theorem startDomFallback (h : op.Silent) (chromium : Chromium) :
    (op.startDomFallback chromium view).EndsWithin 1 :=
  h.evaluation view .canvasScreenshot (fun r => .screenshot (onDomFallback chromium r))
    (onDomFallback_consistent chromium) (Nat.le_refl 1)

theorem performAction (h : op.Silent) (actions : List AXAction) (node : Int)
    {next : Interaction → Interaction}
    (hnext : ∀ op : Interaction, op.Silent → (next op).EndsWithin n) :
    (BrowserController.performAction view actions node next op).EndsWithin n := by
  have hactions (actions : List AXAction) (op : Interaction) (hop : op.Silent) :
      (actions.foldl (fun op action =>
        op.act (.accessibilityPerformAction action node)) op).Silent := by
    induction actions generalizing op with
    | nil => exact hop
    | cons action actions ih => exact ih _ (hop.act _)
  simp only [BrowserController.performAction]
  split
  · exact (h.act _).reportStatus _
  · exact hnext _ (hactions _ _ (h.act _))

theorem onTab {ρ : Type} [BrowserRuntime ρ] (rt : ρ) (targetId : Option String) (h : op.Silent)
    {body : Interaction → Interaction} (hbody : (body op).EndsWithin n) :
    (BrowserController.onTab rt targetId body op).EndsWithin n := by
  rw [BrowserController.onTab]
  split
  · exact h.reportStatus _
  · exact hbody

/-- A request on the reference of a node or of a DOM element. -/
theorem refRequest (h : op.Silent) (ref : String) (script : Int → PageScript)
    {onNode : Int → Interaction → Interaction} (hn : 1 ≤ n)
    (hnode : ∀ node, (onNode node op).EndsWithin n) :
    EndsWithin n (match parseDomRef ref with
      | some index => op.evalStatusJS view (script index)
      | none =>
          match parseRef ref with
          | none => op.reportStatus invalidRef
          | some node => onNode node op) := by
  split
  · exact h.evaluation view _ (fun r => .status (evalStatus r)) (fun _ => trivial) hn
  split
  · exact h.reportStatus _
  · exact hnode _

end Silent

/-- The first step of every request. -/
theorem request_endsWithin {ρ : Type} [BrowserRuntime ρ] (rt : ρ) (targetId : Option String)
    (view : TabView) (random : RandomDraws) (mouse : BezierPoint) (r : InteractionRequest) :
    (request rt targetId view random mouse r).EndsWithin r.answersLeft := by
  have h : (start mouse).Silent := rfl
  cases r with
  | click ref =>
      simp only [request, BrowserController.click]
      apply h.onTab
      exact h.refRequest ref .domClick (Nat.le_add_left 1 14) fun node =>
        h.performAction _ node fun op hop => (hop.act _).suspend (Nat.le_refl 15)
  | hover ref =>
      simp only [request, BrowserController.hover]
      apply h.onTab
      exact h.refRequest ref .domHover (Nat.le_add_left 1 12) fun node =>
        h.performAction _ node fun op hop => (hop.act _).suspend (Nat.le_refl 13)
  | type ref text clear =>
      simp only [request, BrowserController.type]
      apply h.onTab
      exact h.refRequest ref (fun index => .domType index text clear)
        (by simp [InteractionRequest.answersLeft]) fun node =>
          h.performAction _ node fun op hop => hop.suspend (Nat.le_refl _)
  | pressKey key =>
      simp only [request, BrowserController.pressKey]
      apply h.onTab
      exact h.withRenderView fun op hop => (hop.act _).suspend (Nat.le_refl 1)
  | drag startRef endRef =>
      simp only [request, BrowserController.drag]
      apply h.onTab
      split
      · exact h.evaluation view _ (fun r => .status (evalStatus r)) (fun _ => trivial)
          (Nat.le_add_left 1 25)
      · split
        · exact (h.act _).suspend (Nat.le_refl 26)
        · exact h.reportStatus _
      · exact h.reportStatus _
  | scroll deltaX deltaY =>
      simp only [request, BrowserController.scroll]
      apply h.onTab
      split
      · exact h.reportStatus _
      · apply (h.scrollStep _ _ _).mono
        show _ ≤ (max deltaX.toInt.natAbs deltaY.toInt.natAbs + 39) / 40
        omega
  | screenshot =>
      simp only [request, BrowserController.screenshot]
      have failed {op : Interaction} (hop : op.Silent) {code : BrowserStatusCode}
          (hcode : code ≠ .ok) (message : String) :
          (op.report (.screenshot (.error code message))).EndsWithin 2 :=
        hop.report (BrowserResult.error_consistent hcode message)
      split
      · exact failed h (by decide) _
      split
      · exact failed (h.act _) (by decide) _
      split
      · exact failed (h.act _) (by decide) _
      · exact ((h.act _).act _).suspend (Nat.le_refl 2)

/-- An answer brings the report nearer. -/
theorem EndsWithin.answer (chromium : Chromium) {input : InteractionInput}
    (h : op.EndsWithin n) (hawaits : op.awaits input = true) :
    0 < n ∧ (op.step chromium input).EndsWithin (n - 1) := by
  cases h with
  | finished waitingFor result results consistent => simp [awaits, waitingFor] at hawaits
  | waits suspension waitingFor results answers =>
      have hsilent : ({ op with waitingFor := none } : Interaction).Silent := results
      have hkind : suspension.awaits input = true := by simpa [awaits, waitingFor] using hawaits
      have hpos := suspension.answersLeft_pos
      suffices hstep : (op.step chromium input).EndsWithin (suspension.answersLeft - 1) from
        ⟨by omega, hstep.mono (by omega)⟩
      cases suspension with
      | task task =>
          cases input with
          | runTask view random =>
              simp only [step, waitingFor]
              exact hsilent.runTask task
          | _ => cases hkind
      | axSnapshot use =>
          cases input with
          | axTree nodes view random =>
              simp only [step, waitingFor]
              exact hsilent.onAXTreeSnapshot nodes use
          | _ => cases hkind
      | evalStatus =>
          cases input with
          | evaluated outcome =>
              simp only [step, waitingFor]
              exact Silent.reportStatus results _
          | _ => cases hkind
      | changeEvent =>
          cases input with
          | evaluated outcome =>
              simp only [step, waitingFor]
              exact Silent.reportStatus results _
          | _ => cases hkind
      | screenshot =>
          cases input with
          | snapshotFromBrowser image =>
              simp only [step, waitingFor]
              exact Silent.report results (onSnapshotFromBrowser_consistent image)
          | screenshotTimeout view =>
              simp only [step, waitingFor]
              exact hsilent.startDomFallback chromium
          | _ => cases hkind
      | screenshotFallback =>
          cases input with
          | snapshotFromBrowser image =>
              simp only [step, waitingFor]
              exact Silent.report results (onSnapshotFromBrowser_consistent image)
          | evaluated outcome =>
              simp only [step, waitingFor]
              exact Silent.report results (onDomFallback_consistent chromium _)
          | _ => cases hkind

/-- Any other input leaves it where it was. -/
theorem EndsWithin.ignore (chromium : Chromium) {input : InteractionInput} (h : op.EndsWithin n)
    (hawaits : op.awaits input = false) : (op.step chromium input).EndsWithin n := by
  by_cases hinput : input = .tabDestroyed
  · subst hinput
    have hlog : reportedResults (op.record .tabDestroyed).log = reportedResults op.log := by
      rw [record_log, reportedResults_append]
      exact List.append_nil _
    cases h with
    | finished waitingFor result results consistent =>
        exact .finished waitingFor result (hlog.trans results) consistent
    | waits suspension waitingFor results answers =>
        exact .waits suspension waitingFor (hlog.trans results) answers
  · rw [step_ignored chromium hinput]
    · exact h
    · intro suspension hwaiting hkind
      have hany := (suspension.awaits_iff input).mpr hkind
      simp [awaits, hwaiting, hany] at hawaits

theorem EndsWithin.run (chromium : Chromium) (h : op.EndsWithin n)
    (inputs : List InteractionInput) :
    op.answered chromium inputs ≤ n ∧
      (op.run chromium inputs).EndsWithin (n - op.answered chromium inputs) := by
  induction inputs generalizing op n with
  | nil => exact ⟨Nat.zero_le n, h⟩
  | cons input inputs ih =>
      rw [run_cons, answered]
      cases hawaits : op.awaits input with
      | true =>
          obtain ⟨hpos, hstep⟩ := h.answer chromium hawaits
          obtain ⟨hle, hrun⟩ := ih hstep
          rw [if_pos rfl]
          refine ⟨by omega, hrun.mono ?_⟩
          omega
      | false =>
          obtain ⟨hle, hrun⟩ := ih (h.ignore chromium hawaits)
          rw [if_neg Bool.false_ne_true, Nat.zero_add]
          exact ⟨hle, hrun⟩

/-- What every run of the operation satisfies. -/
structure EndsInTime (chromium : Chromium) (op : Interaction) (n : Nat) : Prop where
  answered_le : ∀ inputs, op.answered chromium inputs ≤ n
  once : ∀ inputs, (reportedResults (op.run chromium inputs).log).length ≤ 1
  reported_iff : ∀ inputs, (reportedResults (op.run chromium inputs).log).length = 1 ↔
    (op.run chromium inputs).waitingFor = none
  inTime : ∀ inputs, op.answered chromium inputs = n →
    (reportedResults (op.run chromium inputs).log).length = 1
  consistent : ∀ inputs, ∀ result ∈ reportedResults (op.run chromium inputs).log, result.Consistent

theorem EndsWithin.results (h : op.EndsWithin n) :
    (reportedResults op.log).length ≤ 1 ∧
      ((reportedResults op.log).length = 1 ↔ op.waitingFor = none) := by
  cases h with
  | finished waitingFor result results consistent => simp [waitingFor, results]
  | waits suspension waitingFor results answers => simp [waitingFor, results]

theorem EndsWithin.consistent (h : op.EndsWithin n) :
    ∀ result ∈ reportedResults op.log, result.Consistent := by
  cases h with
  | finished waitingFor result results consistent => simpa [results] using consistent
  | waits suspension waitingFor results answers => simp [results]

theorem EndsWithin.waitingFor_of_zero (h : op.EndsWithin 0) : op.waitingFor = none := by
  cases h with
  | finished waitingFor result results consistent => exact waitingFor
  | waits suspension waitingFor results answers =>
      have hpos := suspension.answersLeft_pos
      omega

end Interaction

/-- From any request, and with any inputs in any order, an operation never takes more answers than
its request fixes and never reports twice; it has reported exactly when it is over, and it is over
as soon as it has had that many answers. What it reports has a value exactly if it is OK. -/
theorem interaction_endsInTime {ρ : Type} [BrowserRuntime ρ] (chromium : Chromium) (rt : ρ)
    (targetId : Option String) (view : TabView) (random : RandomDraws) (mouse : BezierPoint)
    (request : InteractionRequest) :
    (Interaction.request rt targetId view random mouse request).EndsInTime chromium
      request.answersLeft := by
  have hstart := Interaction.request_endsWithin rt targetId view random mouse request
  constructor
  · intro inputs
    exact (hstart.run chromium inputs).1
  · intro inputs
    exact (hstart.run chromium inputs).2.results.1
  · intro inputs
    exact (hstart.run chromium inputs).2.results.2
  · intro inputs hall
    obtain ⟨-, hrun⟩ := hstart.run chromium inputs
    rw [hall, Nat.sub_self] at hrun
    exact hrun.results.2.mpr hrun.waitingFor_of_zero
  · intro inputs
    exact (hstart.run chromium inputs).2.consistent

end Browserd
