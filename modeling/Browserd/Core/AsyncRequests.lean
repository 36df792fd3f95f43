import Browserd.Core.Interactions
import Browserd.Core.WaiterSteps
import Browserd.Lib.OneShot

/-!
# Requests that wait for an answer

The evaluation of a script and the capture of a screenshot, each an object that deletes itself once
its callback has run. A capture that times out starts an evaluation, and its snapshot may still
arrive. With the navigation waiter, they complete once.
-/

namespace Browserd

/-- `timeoutTimer` holds while the timer runs. -/
structure JavaScriptEvaluationRequest where
  callback : Bool
  timeoutTimer : Bool
  completion : List (OneShot.CompletionStep (BrowserResult DevToolsEvaluationResult))

namespace JavaScriptEvaluationRequest

def complete (result : BrowserResult DevToolsEvaluationResult) (r : JavaScriptEvaluationRequest) :
    JavaScriptEvaluationRequest × Option (BrowserResult DevToolsEvaluationResult) :=
  if r.callback then
    ({ callback := false
       timeoutTimer := false
       completion := r.completion ++ [.ranCallback result, .postedDeletion] },
      some result)
  else (r, none)

/-- `Start` with what it finds at the tab, and a timeout in milliseconds. -/
def start (page : Option TabView) (timeout : Int) :
    JavaScriptEvaluationRequest × Option (BrowserResult DevToolsEvaluationResult) :=
  let r : JavaScriptEvaluationRequest := ⟨true, false, []⟩
  match page with
  | none => r.complete (.error .tabNotFound "Tab not found")
  | some view =>
      if !view.hasMainFrame || !view.mainFrameLive then
        r.complete (.error .noActiveFrame "No active frame")
      else ({ r with timeoutTimer := decide (0 < timeout) }, none)

/-- `OnResult` and `OnTimeout`; the timer expires while it runs. -/
def deliver (chromium : Chromium) (r : JavaScriptEvaluationRequest) (outcome : EvaluationOutcome) :
    JavaScriptEvaluationRequest × Option (BrowserResult DevToolsEvaluationResult) :=
  match outcome with
  | .result _ _ => r.complete (evaluationResult chromium outcome)
  | .timeout =>
      if r.timeoutTimer then
        { r with timeoutTimer := false }.complete (evaluationResult chromium outcome)
      else (r, none)

end JavaScriptEvaluationRequest

/-- `fallback` is the evaluation that `StartDomFallback` has started. -/
structure ScreenshotCaptureRequest where
  hasWebContents : Bool
  callback : Bool
  timeoutTimer : Bool
  completion : List (OneShot.CompletionStep (BrowserResult (List UInt8)))
  fallback : Option JavaScriptEvaluationRequest

inductive ScreenshotEvent where
  | snapshotFromBrowser (image : SnapshotImage)
  | timeout (view : TabView)
  | fallback (outcome : EvaluationOutcome)

namespace ScreenshotCaptureRequest

def complete (result : BrowserResult (List UInt8)) (r : ScreenshotCaptureRequest) :
    ScreenshotCaptureRequest × Option (BrowserResult (List UInt8)) :=
  if r.callback then
    ({ r with
        callback := false
        timeoutTimer := false
        completion := r.completion ++ [.ranCallback result, .postedDeletion] },
      some result)
  else (r, none)

def start (hasWebContents : Bool) (view : TabView) :
    ScreenshotCaptureRequest × Option (BrowserResult (List UInt8)) :=
  let r : ScreenshotCaptureRequest := ⟨hasWebContents, true, false, [], none⟩
  if !view.hasRenderView then
    r.complete (.error .screenshotFailed "No render view available")
  else if !view.hasWidget then
    r.complete (.error .screenshotFailed "No render widget available")
  else ({ r with timeoutTimer := true }, none)

/-- The fallback calls back when it completes, and that may be before its start returns. -/
def onFallback (chromium : Chromium)
    (fallback : JavaScriptEvaluationRequest × Option (BrowserResult DevToolsEvaluationResult))
    (r : ScreenshotCaptureRequest) :
    ScreenshotCaptureRequest × Option (BrowserResult (List UInt8)) :=
  let r := { r with fallback := some fallback.1 }
  match fallback.2 with
  | some result => r.complete (onDomFallback chromium result)
  | none => (r, none)

def startDomFallback (chromium : Chromium) (view : TabView) (r : ScreenshotCaptureRequest) :
    ScreenshotCaptureRequest × Option (BrowserResult (List UInt8)) :=
  if !r.hasWebContents then r.complete (.error .timeout "Screenshot timed out")
  else r.onFallback chromium (JavaScriptEvaluationRequest.start (some view) 10000)

def deliver (chromium : Chromium) (r : ScreenshotCaptureRequest) :
    ScreenshotEvent → ScreenshotCaptureRequest × Option (BrowserResult (List UInt8))
  | .snapshotFromBrowser image => r.complete (onSnapshotFromBrowser image)
  | .timeout view =>
      if r.timeoutTimer then { r with timeoutTimer := false }.startDomFallback chromium view
      else (r, none)
  | .fallback outcome =>
      match r.fallback with
      | some fallback => r.onFallback chromium (fallback.deliver chromium outcome)
      | none => (r, none)

end ScreenshotCaptureRequest

open OneShot (Kind)

namespace JavaScriptEvaluationRequest

def kind (chromium : Chromium) :
    Kind JavaScriptEvaluationRequest EvaluationOutcome (BrowserResult DevToolsEvaluationResult)
      JavaScriptEvaluationRequest :=
  ⟨deliver chromium, completion, id⟩

/-- The callback has not run, and a timeout that is positive has its timer running. -/
def Waiting (timeout : Int) (r : JavaScriptEvaluationRequest) : Prop :=
  r.callback = true ∧ (0 < timeout → r.timeoutTimer = true)

def Finished (r : JavaScriptEvaluationRequest) : Prop :=
  r.callback = false ∧ r.timeoutTimer = false

variable {r : JavaScriptEvaluationRequest} (chromium : Chromium)

theorem complete_waiting (h : r.callback = true)
    (result : BrowserResult DevToolsEvaluationResult) :
    r.complete result =
      (⟨false, false, r.completion ++ [.ranCallback result, .postedDeletion]⟩, some result) := by
  rw [complete, if_pos h]

theorem deliver_finished (h : r.Finished) (outcome : EvaluationOutcome) :
    r.deliver chromium outcome = (r, none) := by
  cases outcome with
  | result isSuccess value => simp [deliver, complete, h.1]
  | timeout => simp [deliver, h.2]

/-- An answer completes a request that waits; the expiry of a timer that does not run is none. -/
theorem deliver_waiting (h : r.callback = true) (outcome : EvaluationOutcome) :
    r.deliver chromium outcome =
        (⟨false, false, r.completion ++
            [.ranCallback (evaluationResult chromium outcome), .postedDeletion]⟩,
          some (evaluationResult chromium outcome)) ∨
      r.deliver chromium outcome = (r, none) := by
  cases outcome with
  | result isSuccess value => exact .inl (complete_waiting h _)
  | timeout =>
      by_cases htimer : r.timeoutTimer = true
      · rw [deliver, if_pos htimer]
        exact .inl (complete_waiting (r := { r with timeoutTimer := false }) h _)
      · rw [deliver, if_neg htimer]
        exact .inr rfl

end JavaScriptEvaluationRequest

namespace ScreenshotCaptureRequest

/-- The fallback is not a part of the request. -/
def kind (chromium : Chromium) :
    Kind ScreenshotCaptureRequest ScreenshotEvent (BrowserResult (List UInt8))
      ScreenshotCaptureRequest :=
  ⟨deliver chromium, completion, fun r => { r with fallback := none }⟩

/-- The callback has not run, and the timer of the request or of its fallback runs. -/
def Waiting (r : ScreenshotCaptureRequest) : Prop :=
  r.callback = true ∧
    (r.timeoutTimer = true ∨
      ∃ fallback, r.fallback = some fallback ∧ fallback.callback = true ∧
        fallback.timeoutTimer = true)

def Finished (r : ScreenshotCaptureRequest) : Prop :=
  r.callback = false ∧ r.timeoutTimer = false

/-- What an event does to a request that waits and has done `before` on completion. -/
inductive Outcome (before : List (OneShot.CompletionStep (BrowserResult (List UInt8)))) :
    ScreenshotCaptureRequest × Option (BrowserResult (List UInt8)) → Prop
  | waits (r : ScreenshotCaptureRequest) (waiting : r.Waiting)
      (completion : r.completion = before) : Outcome before (r, none)
  | completes (r : ScreenshotCaptureRequest) (result : BrowserResult (List UInt8))
      (finished : r.Finished)
      (completion : r.completion = before ++ [.ranCallback result, .postedDeletion]) :
      Outcome before (r, some result)

variable {r : ScreenshotCaptureRequest} (chromium : Chromium)

theorem complete_outcome (h : r.callback = true) (result : BrowserResult (List UInt8)) :
    Outcome r.completion (r.complete result) := by
  rw [complete, if_pos h]
  exact .completes _ _ ⟨rfl, rfl⟩ rfl

/-- The start of the fallback completes it or starts its timer. -/
theorem startDomFallback_outcome (h : r.callback = true) (view : TabView) :
    Outcome r.completion (r.startDomFallback chromium view) := by
  rw [startDomFallback]
  split
  · exact complete_outcome h _
  rw [onFallback, JavaScriptEvaluationRequest.start]
  by_cases hframe : (!view.hasMainFrame || !view.mainFrameLive) = true
  · simp only [hframe, if_true, JavaScriptEvaluationRequest.complete]
    exact complete_outcome (r := { r with fallback := some ⟨false, false, _⟩ }) h _
  · simp only [hframe, Bool.false_eq_true, if_false]
    exact .waits _ ⟨h, .inr ⟨_, rfl, rfl, rfl⟩⟩ rfl

/-- An answer of the fallback completes the request; otherwise the fallback has not changed. -/
theorem fallback_outcome (h : r.Waiting) {fallback : JavaScriptEvaluationRequest}
    (hfallback : r.fallback = some fallback) (outcome : EvaluationOutcome) :
    Outcome r.completion (r.onFallback chromium (fallback.deliver chromium outcome)) := by
  obtain ⟨hcallback, htimer⟩ := h
  rw [onFallback]
  cases hresult : (fallback.deliver chromium outcome).2 with
  | some result =>
      exact complete_outcome
        (r := { r with fallback := some (fallback.deliver chromium outcome).1 }) hcallback _
  | none =>
      refine .waits _ ⟨hcallback, ?_⟩ rfl
      rcases htimer with htimer | ⟨waiting, hwaiting, hpending, hrunning⟩
      · exact .inl htimer
      · obtain rfl := Option.some.inj (hfallback.symm.trans hwaiting)
        rcases JavaScriptEvaluationRequest.deliver_waiting chromium hpending outcome with heq | heq
        · rw [heq] at hresult
          cases hresult
        · rw [heq]
          exact .inr ⟨_, rfl, hpending, hrunning⟩

theorem deliver_waiting (h : r.Waiting) (event : ScreenshotEvent) :
    Outcome r.completion (r.deliver chromium event) := by
  cases event with
  | snapshotFromBrowser image => exact complete_outcome h.1 _
  | timeout view =>
      rw [deliver]
      split
      · exact startDomFallback_outcome (r := { r with timeoutTimer := false }) chromium h.1 view
      · exact .waits r h rfl
  | fallback outcome =>
      rw [deliver]
      split
      · rename_i fallback hfallback
        exact fallback_outcome chromium h hfallback outcome
      · exact .waits r h rfl

/-- An event at a request that has finished reaches at most its fallback. -/
theorem deliver_finished (h : r.Finished) (event : ScreenshotEvent) :
    ∃ fallback, r.deliver chromium event = ({ r with fallback := fallback }, none) := by
  obtain ⟨hcallback, htimer⟩ := h
  cases event with
  | snapshotFromBrowser image =>
      exists r.fallback
      rw [deliver, complete, if_neg (by simp [hcallback])]
  | timeout view =>
      exists r.fallback
      rw [deliver, if_neg (by simp [htimer])]
  | fallback outcome =>
      rw [deliver]
      split
      · rename_i fallback hfallback
        refine ⟨some (fallback.deliver chromium outcome).1, ?_⟩
        rw [onFallback]
        split <;> simp [complete, hcallback]
      · exact ⟨r.fallback, rfl⟩

end ScreenshotCaptureRequest

namespace NavigationWaiter

/-- The posted check is not a part of the waiter. -/
def kind (chromium : Chromium) : Kind NavigationWaiter WaiterEvent BrowserStatus NavigationWaiter :=
  ⟨deliver chromium, completion, fun w => { w with checkPosted := false }⟩

variable (chromium : Chromium)

end NavigationWaiter

end Browserd
