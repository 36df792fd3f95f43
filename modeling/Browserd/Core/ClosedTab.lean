import Browserd.Core.InteractionRuns
import Browserd.Core.NavigationCompleteness

/-!
# Tabs closed under an interaction

The steps of an operation keep the pointer to their tab after its destruction. An operation is
safe only while it waits for Chromium, and only if Chromium then answers with a failure.
-/

namespace Browserd

/-- What is done through the pointer to the tab after the tab has been destroyed. -/
def actionsOnDeadTab : List InteractionEvent → List TabAction
  | [] => []
  | .tabDestroyed :: rest => tabActions rest
  | _ :: rest => actionsOnDeadTab rest

/-- No step acts on the destroyed tab, and the callback is run exactly once, with an error. -/
def EndsCleanly (log : List InteractionEvent) : Prop :=
  actionsOnDeadTab log = [] ∧
    ∃ result, reportedResults log = [result] ∧ result.isOk = false

/-- The operation waits for this input. -/
def Suspension.Awaits : Suspension → InteractionInput → Prop
  | .task _, .runTask _ _ => True
  | .axSnapshot _, .axTree _ _ _ => True
  | .evalStatus, .evaluated _ => True
  | .changeEvent, .evaluated _ => True
  | .screenshot, .snapshotFromBrowser _ => True
  | .screenshot, .screenshotTimeout _ => True
  | .screenshotFallback, .snapshotFromBrowser _ => True
  | .screenshotFallback, .evaluated _ => True
  | _, _ => False

/-- The script threw, or its timer expired first. -/
def EvaluationOutcome.Fails : EvaluationOutcome → Prop
  | .result isSuccess _ => isSuccess = false
  | .timeout => True

/-- The script returned a text that says that it found no element or made an error. -/
def EvaluationOutcome.SaysError : EvaluationOutcome → Prop
  | .result _ (.string s) => mentionsError s = true
  | _ => False

/-- The script returned a PNG image as a data URL. -/
def EvaluationOutcome.HasPng (chromium : Chromium) : EvaluationOutcome → Prop
  | .result _ (.string dataUrl) =>
      pngDataUrlPrefix.toList <+: dataUrl.toList ∧
        ∃ bytes, bytes ≠ [] ∧ chromium.base64Decode
          (String.ofList (dataUrl.toList.drop pngDataUrlPrefix.length)) = some bytes
  | _ => False

def SnapshotImage.Unusable (image : SnapshotImage) : Prop :=
  image.isEmpty = true ∨ image.drawsNothing = true ∨ image.png = none

/-- A node that the operation needs is not in the tree. -/
def SnapshotUse.Missing (nodes : List AXNode) : SnapshotUse → Prop
  | .click id => ∀ node ∈ nodes, node.id ≠ id
  | .hover id => ∀ node ∈ nodes, node.id ≠ id
  | .drag source target =>
      (∀ node ∈ nodes, node.id ≠ source) ∨ ∀ node ∈ nodes, node.id ≠ target

/-- The operation waits for Chromium, and the input answers it with a failure. -/
def Suspension.FailureAnswer (chromium : Chromium) : Suspension → InteractionInput → Prop
  | .axSnapshot use, .axTree nodes _ _ => use.Missing nodes
  | .evalStatus, .evaluated outcome => outcome.Fails ∨ outcome.SaysError
  | .changeEvent, .evaluated outcome => outcome.Fails
  | .screenshot, .snapshotFromBrowser image => image.Unusable
  | .screenshotFallback, .snapshotFromBrowser image => image.Unusable
  | .screenshotFallback, .evaluated outcome => outcome.Fails ∨ ¬ outcome.HasPng chromium
  | _, _ => False

section Answers

variable (chromium : Chromium)

/-- An evaluation fails with an error, or succeeds with the value of its script. -/
theorem evaluationResult_cases (outcome : EvaluationOutcome) :
    (outcome.Fails ∧ ∃ code message, code ≠ .ok ∧
        evaluationResult chromium outcome = .error code message) ∨
      (¬ outcome.Fails ∧ ∃ isUndefined value, outcome = .result true value ∧
        evaluationResult chromium outcome = .ok ⟨isUndefined, value⟩) := by
  cases outcome with
  | timeout => exact .inl ⟨trivial, .timeout, _, by decide, rfl⟩
  | result isSuccess value =>
      cases isSuccess with
      | false => exact .inl ⟨rfl, .internalError, _, by decide, rfl⟩
      | true =>
          refine .inr ⟨by simp [EvaluationOutcome.Fails], ?_⟩
          cases value with
          | none => exact ⟨true, .none, rfl, rfl⟩
          | _ => exact ⟨false, _, rfl, rfl⟩

theorem changeStatus_isOk (outcome : EvaluationOutcome) :
    (changeStatus (evaluationResult chromium outcome)).isOk = false ↔ outcome.Fails := by
  rcases evaluationResult_cases chromium outcome with ⟨hfails, code, message, hcode, heq⟩ |
    ⟨hfails, isUndefined, value, -, heq⟩
  · simp [heq, changeStatus, BrowserResult.error, BrowserStatus.error, BrowserStatus.isOk, hcode,
      hfails]
  · simp [heq, changeStatus, BrowserResult.ok, hfails]

theorem evalStatus_isOk (outcome : EvaluationOutcome) :
    (evalStatus (evaluationResult chromium outcome)).isOk = false ↔
      outcome.Fails ∨ outcome.SaysError := by
  rcases evaluationResult_cases chromium outcome with ⟨hfails, code, message, hcode, heq⟩ |
    ⟨hfails, isUndefined, value, rfl, heq⟩
  · simp [heq, evalStatus, BrowserResult.error, BrowserStatus.error, BrowserStatus.isOk, hcode,
      hfails]
  · cases value with
    | string s =>
        by_cases hsays : mentionsError s = true
        · simp [heq, evalStatus, BrowserResult.ok, EvaluationOutcome.SaysError, hsays]
        · simp [heq, evalStatus, BrowserResult.ok, EvaluationOutcome.SaysError, hsays, hfails]
    | _ => simp [heq, evalStatus, BrowserResult.ok, EvaluationOutcome.SaysError, hfails]

theorem onDomFallback_isOk (outcome : EvaluationOutcome) :
    (onDomFallback chromium (evaluationResult chromium outcome)).status.isOk = false ↔
      outcome.Fails ∨ ¬ outcome.HasPng chromium := by
  rcases evaluationResult_cases chromium outcome with ⟨hfails, code, message, hcode, heq⟩ |
    ⟨hfails, isUndefined, value, rfl, heq⟩
  · simp [heq, onDomFallback, BrowserResult.error, BrowserStatus.error, BrowserStatus.isOk, hcode,
      hfails]
  · cases value with
    | string dataUrl =>
        simp only [heq, onDomFallback, BrowserResult.ok, BrowserStatus.isOk_ok, Bool.not_true,
          Bool.false_eq_true, if_false, EvaluationOutcome.HasPng, hfails, false_or]
        by_cases hurl : pngDataUrlPrefix.toList <+: dataUrl.toList
        · simp only [hurl, true_and]
          cases hdecode : chromium.base64Decode
              (String.ofList (dataUrl.toList.drop pngDataUrlPrefix.length)) with
          | none => simp [BrowserResult.error]
          | some bytes => cases bytes <;> simp [BrowserResult.error]
        · simp [hurl, BrowserResult.error]
    | _ =>
        simp [heq, onDomFallback, BrowserResult.ok, BrowserResult.error, EvaluationOutcome.HasPng]

theorem onSnapshotFromBrowser_isOk (image : SnapshotImage) :
    (onSnapshotFromBrowser image).status.isOk = false ↔ image.Unusable := by
  rw [onSnapshotFromBrowser]
  cases hempty : image.isEmpty with
  | true => simp [SnapshotImage.Unusable, hempty]; rfl
  | false =>
      cases hnothing : image.drawsNothing with
      | true => simp [SnapshotImage.Unusable, hnothing]; rfl
      | false =>
          cases hpng : image.png with
          | none => simp [SnapshotImage.Unusable, hempty, hnothing, hpng]; rfl
          | some png => simp [SnapshotImage.Unusable, hempty, hnothing, hpng]; rfl

theorem nodeBounds_eq_none {nodes : List AXNode} {id : Int} :
    Interaction.nodeBounds nodes id = none ↔ ∀ node ∈ nodes, node.id ≠ id := by
  simp [Interaction.nodeBounds]

theorem dragBounds_eq_none {source target : Int} {nodes : List AXNode}
    {startBounds endBounds : Option Bounds} (h : startBounds = none ∨ endBounds = none) :
    Interaction.dragBounds source target nodes startBounds endBounds = none ↔
      (startBounds = none ∧ ∀ node ∈ nodes, node.id ≠ source) ∨
        (endBounds = none ∧ ∀ node ∈ nodes, node.id ≠ target) := by
  induction nodes generalizing startBounds endBounds with
  | nil => simpa [Interaction.dragBounds] using h
  | cons node rest ih =>
      have hstart : (if node.id == source then some node.bounds else startBounds) = none ↔
          startBounds = none ∧ node.id ≠ source := by
        by_cases heq : node.id = source <;> simp [heq]
      have hend : (if node.id == target then some node.bounds else endBounds) = none ↔
          endBounds = none ∧ node.id ≠ target := by
        by_cases heq : node.id = target <;> simp [heq]
      simp only [Interaction.dragBounds, List.forall_mem_cons, ← and_assoc, ← hstart, ← hend]
      generalize (if node.id == source then some node.bounds else startBounds) = startBounds'
      generalize (if node.id == target then some node.bounds else endBounds) = endBounds'
      split
      · simp
      · rename_i hfound
        apply ih
        cases startBounds' with
        | none => exact .inl rfl
        | some bounds =>
            cases endBounds' with
            | none => exact .inr rfl
            | some bounds' => exact absurd rfl (hfound bounds bounds' rfl)

end Answers

namespace Interaction

variable {op : Interaction} {view : TabView} {random : RandomDraws}

/-- The first thing that the step does is an action on the tab. -/
def Acts (op op' : Interaction) : Prop := ∃ action, (op.act action).log <+: op'.log

/-- What the step that ends a wait does: it reports, or it acts on the tab. -/
inductive AnswerOutcome (F : Prop) (op : Interaction) : Interaction → Prop
  | failed (result : OperationResult) (fails : F) (isOk : result.isOk = false) :
      AnswerOutcome F op (op.report result)
  | succeeded (result : OperationResult) (succeeds : ¬ F) (isOk : result.isOk = true) :
      AnswerOutcome F op (op.report result)
  | acts (op' : Interaction) (succeeds : ¬ F) (acts : op.Acts op') : AnswerOutcome F op op'

theorem AnswerOutcome.ofReport {F : Prop} {result : OperationResult}
    (h : result.isOk = false ↔ F) : AnswerOutcome F op (op.report result) := by
  cases hok : result.isOk with
  | false => exact .failed result (h.mp hok) hok
  | true => exact .succeeded result (fun hfails => by simp [h.mpr hfails] at hok) hok

theorem AnswerOutcome.resume {F : Prop} {op' : Interaction}
    (h : AnswerOutcome F { op with waitingFor := none } op') : AnswerOutcome F op op' := by
  cases h with
  | failed result fails isOk => exact .failed result fails isOk
  | succeeded result succeeds isOk => exact .succeeded result succeeds isOk
  | acts _ succeeds acts => exact .acts _ succeeds acts

theorem withRenderView_acts {next : Interaction → Interaction}
    (hnext : ∀ op : Interaction, op.log <+: (next op).log) :
    op.Acts (op.withRenderView view next) := by
  refine ⟨.getRenderWidgetHostView, ?_⟩
  rw [withRenderView]
  split
  · simp [reportStatus, report, record]
  · exact hnext _

theorem evaluateWithDevTools_acts (op : Interaction) (view : TabView) (script : PageScript) :
    op.Acts (op.evaluateWithDevTools view script).1 := by
  refine ⟨.getPrimaryMainFrame, ?_⟩
  rw [evaluateWithDevTools]
  split
  · exact List.prefix_rfl
  · simp [act, record]

theorem Acts.extends {op' : Interaction} (h : op.Acts op') : op.log <+: op'.log := by
  obtain ⟨action, h⟩ := h
  exact List.IsPrefix.trans (List.prefix_append _ _) h

theorem Acts.trans {op' op'' : Interaction} (h : op.Acts op') (h' : op'.log <+: op''.log) :
    op.Acts op'' := by
  obtain ⟨action, h⟩ := h
  exact ⟨action, h.trans h'⟩

theorem runPathDone_outcome (op : Interaction) (view : TabView) (random : RandomDraws)
    (onDone : PathDone) : AnswerOutcome False op (op.runPathDone view random onDone) := by
  cases onDone with
  | click point => exact .acts _ id (withRenderView_acts fun op => List.prefix_rfl)
  | hover => exact .succeeded _ id rfl
  | dragStart source target =>
      refine .acts _ id (withRenderView_acts fun op => ?_)
      have hscript := (evaluateWithDevTools_acts (op.forwardMouseButton .mouseDown source) view
        (.dragStart source)).extends
      exact (List.prefix_append _ _).trans hscript
  | dragEnd target =>
      refine .acts _ id (withRenderView_acts fun op => ?_)
      have hscript := (evaluateWithDevTools_acts (op.forwardMouseButton .mouseUp target) view
        (.dragEnd target)).extends
      exact ((List.prefix_append _ _).trans hscript).trans (List.prefix_append _ _)

theorem runPathDone_extends (onDone : PathDone) :
    op.log <+: (op.runPathDone view random onDone).log := by
  have h := runPathDone_outcome op view random onDone
  generalize op.runPathDone view random onDone = op' at h
  cases h with
  | failed => exact List.prefix_append _ _
  | succeeded => exact List.prefix_append _ _
  | acts _ _ hacts => exact hacts.extends

theorem animateMousePath_acts {path : List BezierPoint} (hpath : path ≠ []) (onDone : PathDone) :
    op.Acts (op.animateMousePath view random path onDone) := by
  cases path with
  | nil => exact absurd rfl hpath
  | cons point rest =>
      refine ⟨.getRenderWidgetHostView, ?_⟩
      rw [animateMousePath]
      split
      · exact runPathDone_extends onDone
      · exact List.prefix_append _ _

theorem animateMousePath_outcome (path : List BezierPoint) (onDone : PathDone) :
    AnswerOutcome False op (op.animateMousePath view random path onDone) := by
  cases path with
  | nil => exact runPathDone_outcome op view random onDone
  | cons point rest => exact .acts _ id (animateMousePath_acts (by simp) onDone)

theorem typeNextChar_acts (text : List UInt8) : op.Acts (op.typeNextChar view text) := by
  cases text with
  | nil =>
      have hacts := evaluateWithDevTools_acts op view .changeEvent
      rw [typeNextChar]
      split
      · rename_i op' result heq
        rw [heq] at hacts
        exact hacts.trans (List.prefix_append _ _)
      · rename_i op' heq
        rw [heq] at hacts
        exact hacts
  | cons c rest =>
      apply withRenderView_acts
      intro op
      simp [act, record, suspend]

/-- A delayed task fails for no tab: it acts on it or reports success. -/
theorem runTask_outcome (op : Interaction) (task : DelayedTask) :
    AnswerOutcome False op (op.runTask view random task) := by
  cases task with
  | animateMousePath path onDone => exact animateMousePath_outcome path onDone
  | mouseDown point => exact .acts _ id (withRenderView_acts fun op => List.prefix_append _ _)
  | mouseUp point =>
      refine .acts _ id (withRenderView_acts fun op => ?_)
      simp [forwardMouseButton, act, record, reportStatus, report]
  | dragPath path target => exact animateMousePath_outcome path _
  | typeNextChar text => exact .acts _ id (typeNextChar_acts text)
  | typeKeyUp mapping rest =>
      exact .acts _ id (withRenderView_acts fun op => List.prefix_append _ _)
  | pressKeyUp mapping =>
      refine .acts _ id (withRenderView_acts fun op => ?_)
      simp [keyUp, act, record, reportStatus, report]
  | scrollStep deltaX deltaY remaining =>
      simp only [runTask, scrollStep]
      split
      · exact .succeeded _ id rfl
      · exact .acts _ id (withRenderView_acts fun op => List.prefix_append _ _)

private theorem nodePath_outcome {nodes : List AXNode} {id : Int} {next : Bounds → Interaction}
    (hnext : ∀ bounds, op.Acts (next bounds)) :
    AnswerOutcome (∀ node ∈ nodes, node.id ≠ id) op
      (match nodeBounds nodes id with
        | none => op.reportStatus (.error .notFound "Element not found")
        | some bounds => next bounds) := by
  split
  · rename_i hnone
    exact .failed _ (nodeBounds_eq_none.mp hnone) rfl
  · rename_i bounds hsome
    apply AnswerOutcome.acts _ _ (hnext bounds)
    intro hmissing
    simp [nodeBounds_eq_none.mpr hmissing] at hsome

/-- A snapshot with the nodes starts a path, which is never empty. -/
theorem onAXTreeSnapshot_outcome (op : Interaction) (nodes : List AXNode) (use : SnapshotUse) :
    AnswerOutcome (use.Missing nodes) op (op.onAXTreeSnapshot view random nodes use) := by
  cases use with
  | click node =>
      exact nodePath_outcome fun bounds =>
        animateMousePath_acts (generateMousePath_ne_nil _ _ _) _
  | hover node =>
      exact nodePath_outcome fun bounds =>
        animateMousePath_acts (generateMousePath_ne_nil _ _ _) _
  | drag source target =>
      have hmissing : dragBounds source target nodes none none = none ↔
          SnapshotUse.Missing nodes (.drag source target) := by
        rw [dragBounds_eq_none (.inl rfl)]
        simp [SnapshotUse.Missing]
      simp only [onAXTreeSnapshot]
      split
      · rename_i hnone
        exact .failed _ (hmissing.mp hnone) rfl
      · rename_i startBounds endBounds hsome
        refine .acts _ (fun h => ?_) (animateMousePath_acts (generateMousePath_ne_nil _ _ _) _)
        simp [hmissing.mpr h] at hsome

theorem startDomFallback_acts (op : Interaction) (chromium : Chromium) :
    op.Acts (op.startDomFallback chromium view) := by
  have hacts := evaluateWithDevTools_acts op view .canvasScreenshot
  rw [startDomFallback]
  split
  · rename_i op' result heq
    rw [heq] at hacts
    exact hacts.trans (List.prefix_append _ _)
  · rename_i op' heq
    rw [heq] at hacts
    exact hacts

/-- The step that ends a wait reports an error exactly for a failure of Chromium. -/
theorem awaited_outcome (chromium : Chromium) {suspension : Suspension} {input : InteractionInput}
    (hwaiting : op.waitingFor = some suspension) (hawaits : suspension.Awaits input) :
    AnswerOutcome (suspension.FailureAnswer chromium input) op (op.step chromium input) := by
  cases suspension with
  | task task =>
      cases input with
      | runTask view random =>
          simp only [step, hwaiting]
          exact (runTask_outcome { op with waitingFor := none } task).resume
      | _ => exact hawaits.elim
  | axSnapshot use =>
      cases input with
      | axTree nodes view random =>
          simp only [step, hwaiting]
          exact (onAXTreeSnapshot_outcome { op with waitingFor := none } nodes use).resume
      | _ => exact hawaits.elim
  | evalStatus =>
      cases input with
      | evaluated outcome =>
          simp only [step, hwaiting]
          exact .ofReport (evalStatus_isOk chromium outcome)
      | _ => exact hawaits.elim
  | changeEvent =>
      cases input with
      | evaluated outcome =>
          simp only [step, hwaiting]
          exact .ofReport (changeStatus_isOk chromium outcome)
      | _ => exact hawaits.elim
  | screenshot =>
      cases input with
      | snapshotFromBrowser image =>
          simp only [step, hwaiting]
          exact .ofReport (onSnapshotFromBrowser_isOk image)
      | screenshotTimeout view =>
          simp only [step, hwaiting]
          exact .acts _ id (startDomFallback_acts { op with waitingFor := none } chromium)
      | _ => exact hawaits.elim
  | screenshotFallback =>
      cases input with
      | snapshotFromBrowser image =>
          simp only [step, hwaiting]
          exact .ofReport (onSnapshotFromBrowser_isOk image)
      | evaluated outcome =>
          simp only [step, hwaiting]
          exact .ofReport (onDomFallback_isOk chromium outcome)
      | _ => exact hawaits.elim

/-- An input that is not awaited does not reach the operation. -/
theorem step_ignored (chromium : Chromium) {input : InteractionInput}
    (hinput : input ≠ .tabDestroyed)
    (hignored : ∀ suspension, op.waitingFor = some suspension → ¬ suspension.Awaits input) :
    op.step chromium input = op := by
  cases input with
  | tabDestroyed => exact absurd rfl hinput
  | runTask view random =>
      simp only [step]
      split
      · rename_i task hwaiting
        exact absurd trivial (hignored (.task task) hwaiting)
      · rfl
  | axTree nodes view random =>
      simp only [step]
      split
      · rename_i use hwaiting
        exact absurd trivial (hignored (.axSnapshot use) hwaiting)
      · rfl
  | evaluated outcome =>
      simp only [step]
      split
      · exact absurd trivial (hignored .evalStatus ‹_›)
      · exact absurd trivial (hignored .changeEvent ‹_›)
      · exact absurd trivial (hignored .screenshotFallback ‹_›)
      · rfl
  | snapshotFromBrowser image =>
      simp only [step]
      split
      · exact absurd trivial (hignored .screenshot ‹_›)
      · exact absurd trivial (hignored .screenshotFallback ‹_›)
      · rfl
  | screenshotTimeout view =>
      simp only [step]
      split
      · exact absurd trivial (hignored .screenshot ‹_›)
      · rfl

theorem step_extends (chromium : Chromium) (op : Interaction) (input : InteractionInput) :
    op.log <+: (op.step chromium input).log := by
  by_cases hinput : input = .tabDestroyed
  · subst hinput
    exact List.prefix_append _ _
  by_cases hawaits : ∃ suspension, op.waitingFor = some suspension ∧ suspension.Awaits input
  · obtain ⟨suspension, hwaiting, hawaits⟩ := hawaits
    have houtcome := awaited_outcome chromium hwaiting hawaits
    generalize op.step chromium input = op' at houtcome
    cases houtcome with
    | failed => exact List.prefix_append _ _
    | succeeded => exact List.prefix_append _ _
    | acts _ _ hacts => exact hacts.extends
  · have hsame := step_ignored chromium hinput fun suspension hwaiting h =>
      hawaits ⟨suspension, hwaiting, h⟩
    simp [hsame]

theorem run_extends (chromium : Chromium) (op : Interaction) (inputs : List InteractionInput) :
    op.log <+: (op.run chromium inputs).log := by
  induction inputs generalizing op with
  | nil => exact List.prefix_rfl
  | cons input inputs ih => exact (step_extends chromium op input).trans (ih _)

/-- After its report an operation does nothing. -/
theorem run_over (chromium : Chromium) (hwaiting : op.waitingFor = none)
    (inputs : List InteractionInput) :
    reportedResults (op.run chromium inputs).log = reportedResults op.log ∧
      tabActions (op.run chromium inputs).log = tabActions op.log := by
  induction inputs generalizing op with
  | nil => exact ⟨rfl, rfl⟩
  | cons input inputs ih =>
      by_cases hinput : input = .tabDestroyed
      · subst hinput
        have hover : (op.record .tabDestroyed).waitingFor = none := hwaiting
        obtain ⟨hresults, hactions⟩ := ih hover
        refine ⟨hresults.trans ?_, hactions.trans ?_⟩
        · simp [record, reportedResults]
        · simp [record, tabActions]
      · have hidle : op.step chromium input = op :=
          step_ignored chromium hinput (by simp [hwaiting])
        rw [run_cons, hidle]
        exact ih hwaiting

end Interaction

theorem actionsOnDeadTab_append {log : List InteractionEvent} (h : .tabDestroyed ∉ log)
    (rest : List InteractionEvent) :
    actionsOnDeadTab (log ++ .tabDestroyed :: rest) = tabActions rest := by
  induction log with
  | nil => rfl
  | cons event log ih =>
      simp only [List.mem_cons, not_or] at h
      cases event with
      | tabDestroyed => exact absurd rfl h.1
      | _ => exact ih h.2

namespace Interaction

/-- An operation that has not reported, and whose tab is destroyed, ends cleanly exactly if what
ends its wait is a failure of Chromium. -/
theorem Unreported.endsCleanly_iff (chromium : Chromium) {op : Interaction} (h : op.Unreported)
    {suspension : Suspension} {input : InteractionInput} (after : List InteractionInput)
    (hwaiting : op.waitingFor = some suspension) (hawaits : suspension.Awaits input) :
    EndsCleanly (op.run chromium (.tabDestroyed :: input :: after)).log ↔
      suspension.FailureAnswer chromium input := by
  have hdestroyed : (op.record .tabDestroyed).waitingFor = some suspension := hwaiting
  have houtcome := awaited_outcome chromium hdestroyed hawaits
  simp only [run_cons, show op.step chromium .tabDestroyed = op.record .tabDestroyed from rfl]
  generalize (op.record .tabDestroyed).step chromium input = op' at houtcome ⊢
  obtain ⟨rest, hrest⟩ := run_extends chromium op' after
  cases houtcome with
  | failed result fails isOk =>
      refine ⟨fun _ => fails, fun _ => ?_⟩
      have hover : ((op.record .tabDestroyed).report result).waitingFor = none := rfl
      obtain ⟨hresults, hactions⟩ := run_over chromium hover after
      have hquiet : tabActions rest = [] := by
        rw [← hrest] at hactions
        simpa [tabActions] using hactions
      refine ⟨?_, result, ?_, isOk⟩
      · rw [← hrest, report_log, record_log]
        simp only [List.append_assoc, List.cons_append, List.nil_append]
        rw [actionsOnDeadTab_append h.tabAlive]
        simpa [tabActions] using hquiet
      · rw [hresults, report_log, record_log]
        have hnone := h.results
        simp only [reportedResults] at hnone
        simp [reportedResults, hnone]
  | succeeded result succeeds isOk =>
      refine ⟨fun hclean => ?_, fun hfails => absurd hfails succeeds⟩
      obtain ⟨-, result', hresults, hfailed⟩ := hclean
      rw [← hrest, report_log, record_log] at hresults
      have hmem : result ∈ reportedResults
          (op.log ++ [.tabDestroyed] ++ [.reported result] ++ rest) := by
        simp [reportedResults]
      rw [hresults, List.mem_singleton] at hmem
      simp [← hmem, isOk] at hfailed
  | acts _ succeeds hacts =>
      refine ⟨fun hclean => ?_, fun hfails => absurd hfails succeeds⟩
      obtain ⟨action, more, hmore⟩ := hacts
      have hdead := hclean.1
      rw [← hrest, ← hmore, act_log, record_log] at hdead
      simp only [List.append_assoc, List.cons_append, List.nil_append] at hdead
      rw [actionsOnDeadTab_append h.tabAlive] at hdead
      simp [tabActions] at hdead

/-- From any request, and after any steps of the operation, the destruction of its tab ends it
cleanly exactly if it was waiting for Chromium and is answered with a failure. -/
theorem closedTab_endsCleanly_iff {ρ : Type} [BrowserRuntime ρ] (chromium : Chromium) (rt : ρ)
    (targetId : Option String) (view : TabView) (random : RandomDraws) (mouse : BezierPoint)
    (r : InteractionRequest) (before after : List InteractionInput) (suspension : Suspension)
    (input : InteractionInput) (hbefore : .tabDestroyed ∉ before)
    (hwaiting : ((request rt targetId view random mouse r).run chromium before).waitingFor =
      some suspension)
    (hawaits : suspension.Awaits input) :
    EndsCleanly ((request rt targetId view random mouse r).run chromium
        (before ++ .tabDestroyed :: input :: after)).log ↔
      suspension.FailureAnswer chromium input := by
  have hproceeds := run_proceeds chromium
    (request_proceeds rt targetId view random mouse r) hbefore
  rw [run_append]
  rcases hproceeds with hunreported | hreported
  · exact hunreported.endsCleanly_iff chromium after hwaiting hawaits
  · simp [hreported.waitingFor] at hwaiting

/-- A key is down when the tab is closed; it is released all the same. -/
theorem closedTab_used :
    ¬ ∀ (chromium : Chromium) (rt : HeadlessRuntime) (targetId : Option String) (view : TabView)
        (random : RandomDraws) (mouse : BezierPoint) (r : InteractionRequest)
        (before after : List InteractionInput) (suspension : Suspension)
        (input : InteractionInput), .tabDestroyed ∉ before →
        ((request rt targetId view random mouse r).run chromium before).waitingFor =
          some suspension → suspension.Awaits input →
        EndsCleanly ((request rt targetId view random mouse r).run chromium
          (before ++ .tabDestroyed :: input :: after)).log := by
  intro h
  have hclean := h shopChromium shopRuntime none shopView shopDraws ⟨500, 400⟩ (.pressKey "Enter")
    [] [] _ (.runTask shopView shopDraws) (by simp) rfl trivial
  cases hclean.1

/-- The tab is closed while a click waits for its accessibility tree, which comes back empty. -/
theorem closedTab_sample :
    EndsCleanly ((request shopRuntime none shopView shopDraws ⟨500, 400⟩ (.click "7")).run
      shopChromium [.tabDestroyed, .axTree [] shopView shopDraws]).log := by
  have hends := closedTab_endsCleanly_iff shopChromium shopRuntime none shopView shopDraws
    ⟨500, 400⟩ (.click "7") [] [] (.axSnapshot (.click 7)) (.axTree [] shopView shopDraws)
    (by simp) rfl trivial
  exact hends.mpr (by simp [Suspension.FailureAnswer, SnapshotUse.Missing])

end Interaction

end Browserd
