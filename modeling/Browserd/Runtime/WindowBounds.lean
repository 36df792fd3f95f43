import Browserd.Lib.PostedTasks
import Mathlib.Data.List.Induction
import Mathlib.Logic.Function.Basic

/-!
# Window bounds

The headless platform of macOS applies the bounds of a tab by posted tasks, and again to each
render widget host view that replaces the one before it. The bounds that are applied again are
those of the first call.
-/

namespace Browserd

/-- `gfx::Rect`. -/
structure Rect where
  x : Int
  y : Int
  width : Int
  height : Int
deriving DecidableEq

/-- A tab that lives: its current view, the window frame of each view, and the bounds of the
`HeadlessWindowBoundsApplier` that is attached to it. -/
structure WindowTab where
  view : Option Nat
  windowFrame : Nat → Rect
  boundsApplier : Option Rect

/-- A new view has an empty frame in the corner of the screen. -/
def WindowTab.new (view : Option Nat) : WindowTab := ⟨view, fun _ => ⟨0, 0, 0, 0⟩, none⟩

/-- The posted task; it takes the view that is current when it is run. -/
def WindowTab.setWindowFrameInScreen (tab : WindowTab) (bounds : Rect) : WindowTab :=
  match tab.view with
  | none => tab
  | some view => { tab with windowFrame := Function.update tab.windowFrame view bounds }

abbrev HeadlessWindow := Posted WindowTab Rect

namespace HeadlessWindow

def applyBounds (window : HeadlessWindow) : HeadlessWindow :=
  match window.state.boundsApplier with
  | none => window
  | some bounds => window.post bounds

/-- A second applier is not attached. -/
def setWebContentsBounds (bounds : Rect) (window : HeadlessWindow) : HeadlessWindow :=
  let window := window.post bounds
  if window.state.boundsApplier.isNone then
    { window with state := { window.state with boundsApplier := some bounds } }
  else window

def swapView (view : Option Nat) (window : HeadlessWindow) : HeadlessWindow :=
  { window with state := { window.state with view := view } }

def renderViewHostChanged (window : HeadlessWindow) : HeadlessWindow := window.applyBounds

def renderFrameHostChanged (window : HeadlessWindow) : HeadlessWindow := window.applyBounds

end HeadlessWindow

/-- A call, an event of the tab after which `view` is the current view, or a posted task. -/
inductive WindowStep where
  | setWebContentsBounds (bounds : Rect)
  | renderViewHostChanged (view : Option Nat)
  | renderFrameHostChanged (view : Option Nat)
  | runTask

namespace HeadlessWindow

def step (window : HeadlessWindow) : WindowStep → HeadlessWindow
  | .setWebContentsBounds bounds => window.setWebContentsBounds bounds
  | .renderViewHostChanged view => (window.swapView view).renderViewHostChanged
  | .renderFrameHostChanged view => (window.swapView view).renderFrameHostChanged
  | .runTask => window.runTask WindowTab.setWindowFrameInScreen

/-- A tab from its creation with `view` on. -/
def run (view : Option Nat) (steps : List WindowStep) : HeadlessWindow :=
  steps.foldl step ⟨.new view, []⟩

/-- The tab after the posted tasks that are left. -/
def settled (window : HeadlessWindow) : WindowTab :=
  window.runAll WindowTab.setWindowFrameInScreen

end HeadlessWindow

namespace WindowStep

/-- The bounds of the calls, in their order. -/
def calls (steps : List WindowStep) : List Rect :=
  steps.filterMap fun | .setWebContentsBounds bounds => some bounds | _ => none

/-- The view that the last event of the tab names. -/
def currentView (view : Option Nat) (steps : List WindowStep) : Option Nat :=
  steps.foldl
    (fun
      | _, .renderViewHostChanged view => view
      | _, .renderFrameHostChanged view => view
      | view, _ => view)
    view

def isTask : WindowStep → Bool
  | .runTask => true
  | _ => false

/-- No event of the tab comes after the last call. -/
def EndsWithCall (steps : List WindowStep) : Prop :=
  ∃ bounds, steps.findRev? (fun step => !step.isTask) = some (.setWebContentsBounds bounds)

/-- The bounds that the last posted task carries. -/
def lastPosted (steps : List WindowStep) : Option Rect :=
  match steps.findRev? fun step => !step.isTask with
  | some (.setWebContentsBounds bounds) => some bounds
  | _ => (calls steps).head?

variable {steps : List WindowStep}

theorem getLast?_calls {bounds : Rect}
    (h : steps.findRev? (fun step => !step.isTask) = some (.setWebContentsBounds bounds)) :
    (calls steps).getLast? = some bounds := by
  induction steps using List.reverseRecOn with
  | nil => cases h
  | append_singleton steps step ih =>
      cases step with
      | setWebContentsBounds last =>
          obtain rfl : last = bounds := by simpa [isTask] using h
          simp [calls]
      | renderViewHostChanged view => simp [isTask] at h
      | renderFrameHostChanged view => simp [isTask] at h
      | runTask => simpa [calls] using ih (by simpa [isTask] using h)

theorem lastPosted_of_endsWithCall (h : EndsWithCall steps) :
    lastPosted steps = (calls steps).getLast? := by
  obtain ⟨bounds, hlast⟩ := h
  rw [lastPosted, hlast, getLast?_calls hlast]

theorem lastPosted_of_not_endsWithCall (h : ¬ EndsWithCall steps) :
    lastPosted steps = (calls steps).head? := by
  rw [lastPosted]
  split
  · rename_i bounds hlast
    exact absurd ⟨bounds, hlast⟩ h
  · rfl

end WindowStep

namespace HeadlessWindow

open WindowStep

/-- What is known of the tab after `steps`; `frame` also counts in the tasks that are left. -/
structure Follows (view : Option Nat) (steps : List WindowStep) (window : HeadlessWindow) :
    Prop where
  boundsApplier : window.state.boundsApplier = (calls steps).head?
  current : window.state.view = currentView view steps
  frame : ∀ current bounds, currentView view steps = some current →
    lastPosted steps = some bounds → window.settled.windowFrame current = bounds

variable {view : Option Nat} {steps : List WindowStep} {window : HeadlessWindow}

@[simp] theorem setWindowFrameInScreen_view (tab : WindowTab) (bounds : Rect) :
    (tab.setWindowFrameInScreen bounds).view = tab.view := by
  rw [WindowTab.setWindowFrameInScreen]
  split <;> rfl

@[simp] theorem setWindowFrameInScreen_boundsApplier (tab : WindowTab) (bounds : Rect) :
    (tab.setWindowFrameInScreen bounds).boundsApplier = tab.boundsApplier := by
  rw [WindowTab.setWindowFrameInScreen]
  split <;> rfl

theorem setWindowFrameInScreen_windowFrame {tab : WindowTab} {current : Nat}
    (h : tab.view = some current) (bounds : Rect) :
    (tab.setWindowFrameInScreen bounds).windowFrame current = bounds := by
  simp [WindowTab.setWindowFrameInScreen, h]

theorem settled_view (window : HeadlessWindow) : window.settled.view = window.state.view :=
  Posted.runAll_keeps (f := WindowTab.view) setWindowFrameInScreen_view

/-- The task that was posted last has the last word. -/
theorem settled_of_last {earlier : List Rect} {bounds : Rect} {current : Nat}
    (htasks : window.tasks = earlier ++ [bounds]) (h : window.state.view = some current) :
    window.settled.windowFrame current = bounds := by
  have hpost : window = (⟨window.state, earlier⟩ : HeadlessWindow).post bounds := by
    rw [Posted.post, ← htasks]
  have hview := settled_view ⟨window.state, earlier⟩
  rw [hpost, settled, Posted.runAll_post]
  exact setWindowFrameInScreen_windowFrame (hview.trans h) bounds

theorem setWebContentsBounds_view (bounds : Rect) (window : HeadlessWindow) :
    (window.setWebContentsBounds bounds).state.view = window.state.view := by
  rw [setWebContentsBounds]
  split <;> rfl

theorem setWebContentsBounds_tasks (bounds : Rect) (window : HeadlessWindow) :
    (window.setWebContentsBounds bounds).tasks = window.tasks ++ [bounds] := by
  rw [setWebContentsBounds]
  split <;> rfl

/-- The first call attaches its bounds. -/
theorem setWebContentsBounds_boundsApplier (bounds : Rect) (window : HeadlessWindow) :
    (window.setWebContentsBounds bounds).state.boundsApplier =
      window.state.boundsApplier.or (some bounds) := by
  rw [setWebContentsBounds, Posted.post_state]
  cases hattached : window.state.boundsApplier with
  | none => rfl
  | some first => simp [hattached]

theorem applyBounds_state (window : HeadlessWindow) : window.applyBounds.state = window.state := by
  rw [applyBounds]
  split <;> rfl

theorem applyBounds_tasks (window : HeadlessWindow) {bounds : Rect}
    (h : window.state.boundsApplier = some bounds) :
    window.applyBounds.tasks = window.tasks ++ [bounds] := by
  rw [applyBounds, h]
  rfl

theorem Follows.setWebContentsBounds (h : Follows view steps window) (bounds : Rect) :
    Follows view (steps ++ [.setWebContentsBounds bounds])
      (window.setWebContentsBounds bounds) where
  boundsApplier := by
    rw [setWebContentsBounds_boundsApplier, h.boundsApplier]
    simp [calls, List.head?_append]
  current := by
    rw [setWebContentsBounds_view, h.current]
    simp [currentView]
  frame := by
    intro current last hcurrent hlast
    obtain rfl : bounds = last := by simpa [lastPosted, isTask] using hlast
    apply settled_of_last (setWebContentsBounds_tasks bounds window)
    rw [setWebContentsBounds_view, h.current, ← hcurrent]
    simp [currentView]

/-- Both events apply the bounds of the first call. -/
theorem Follows.hostChanged (h : Follows view steps window) {new : Option Nat} {step : WindowStep}
    (hstep : step = .renderViewHostChanged new ∨ step = .renderFrameHostChanged new) :
    Follows view (steps ++ [step]) (window.swapView new).applyBounds := by
  have hcalls : calls (steps ++ [step]) = calls steps := by
    rcases hstep with rfl | rfl <;> simp [calls]
  have hview : currentView view (steps ++ [step]) = new := by
    rcases hstep with rfl | rfl <;> simp [currentView]
  have hposted : lastPosted (steps ++ [step]) = (calls steps).head? := by
    rcases hstep with rfl | rfl <;> simp [lastPosted, isTask, hcalls]
  constructor
  · rw [applyBounds_state, hcalls]
    exact h.boundsApplier
  · rw [applyBounds_state, hview]
    rfl
  · intro current last hcurrent hlast
    rw [hposted, ← h.boundsApplier] at hlast
    apply settled_of_last (applyBounds_tasks (window.swapView new) hlast)
    rw [applyBounds_state, ← hcurrent, hview]
    rfl

theorem Follows.runTask (h : Follows view steps window) :
    Follows view (steps ++ [.runTask])
      (Posted.runTask WindowTab.setWindowFrameInScreen window) where
  boundsApplier := by
    rw [Posted.runTask_keeps (f := WindowTab.boundsApplier) setWindowFrameInScreen_boundsApplier]
    simpa [calls] using h.boundsApplier
  current := by
    rw [Posted.runTask_keeps (f := WindowTab.view) setWindowFrameInScreen_view]
    simpa [currentView] using h.current
  frame := by
    intro current last hcurrent hlast
    rw [settled, Posted.runAll_runTask]
    apply h.frame current last
    · simpa [currentView] using hcurrent
    · simpa [lastPosted, isTask, calls] using hlast

theorem follows_run (view : Option Nat) (steps : List WindowStep) :
    Follows view steps (run view steps) := by
  induction steps using List.reverseRecOn with
  | nil => exact ⟨rfl, rfl, by simp [lastPosted, calls]⟩
  | append_singleton steps step ih =>
      rw [run, List.foldl_concat]
      cases step with
      | setWebContentsBounds bounds => exact ih.setWebContentsBounds bounds
      | renderViewHostChanged new => exact ih.hostChanged (.inl rfl)
      | renderFrameHostChanged new => exact ih.hostChanged (.inr rfl)
      | runTask => exact ih.runTask

/-- After all posted tasks the frame last applied to the current view is that of the most recent
call. -/
def KeepsBounds (view : Option Nat) (steps : List WindowStep) : Prop :=
  let tab := (run view steps).settled
  ∀ current bounds, tab.view = some current → (calls steps).getLast? = some bounds →
    tab.windowFrame current = bounds

/-- The current view has the bounds of the most recent call exactly when there is no current view,
no event of the tab comes after that call, or the first call had the same bounds. -/
theorem keepsBounds_iff (view : Option Nat) (steps : List WindowStep) :
    KeepsBounds view steps ↔
      currentView view steps = none ∨ EndsWithCall steps ∨
        (calls steps).head? = (calls steps).getLast? := by
  have hfollows := follows_run view steps
  have hview : (run view steps).settled.view = currentView view steps :=
    (settled_view _).trans hfollows.current
  constructor
  · intro hkeeps
    by_cases hends : EndsWithCall steps
    · exact .inr (.inl hends)
    cases hcurrent : currentView view steps with
    | none => exact .inl rfl
    | some current =>
    right; right
    cases hfirst : (calls steps).head? with
    | none => rw [List.head?_eq_none_iff.mp hfirst, List.getLast?_nil]
    | some first =>
        have hposted := (lastPosted_of_not_endsWithCall hends).trans hfirst
        have happlied := hfollows.frame current first hcurrent hposted
        cases hlast : (calls steps).getLast? with
        | none =>
            rw [List.getLast?_eq_none_iff.mp hlast] at hfirst
            cases hfirst
        | some last =>
            rw [hkeeps current last (hview.trans hcurrent) hlast] at happlied
            rw [happlied]
  · intro hwhen current bounds hcurrent hlast
    rw [hview] at hcurrent
    apply hfollows.frame current bounds hcurrent
    rcases hwhen with hnone | hends | hsame
    · rw [hnone] at hcurrent
      cases hcurrent
    · exact (lastPosted_of_endsWithCall hends).trans hlast
    · by_cases hends : EndsWithCall steps
      · exact (lastPosted_of_endsWithCall hends).trans hlast
      · exact ((lastPosted_of_not_endsWithCall hends).trans hsame).trans hlast

/-- A window that has been moved goes back to its first place when the view is swapped. -/
theorem moved_window_goes_back :
    ¬ ∀ (view : Option Nat) (steps : List WindowStep), KeepsBounds view steps := by
  intro h
  have hframe := h (some 0) [.setWebContentsBounds ⟨0, 0, 1920, 942⟩,
    .setWebContentsBounds ⟨200, 100, 1280, 720⟩, .renderFrameHostChanged (some 1)] 1
    ⟨200, 100, 1280, 720⟩ rfl rfl
  exact absurd hframe (by decide)

end HeadlessWindow

end Browserd
