import Mathlib.Algebra.Ring.Int.Defs
import Browserd.Core.InteractionRuns
import Browserd.Core.NavigationCompleteness

/-!
# The amount that is scrolled

`Scroll` counts one distance down in random chunks, and each chunk moves both axes that have a
delta. It always ends; an axis with the smaller of two deltas is scrolled too far.
-/

namespace Browserd

/-- The steps of a scroll; a wheel event carries them with the sign turned. -/
def wheelSteps (log : List InteractionEvent) : List (Int × Int) :=
  log.filterMap fun
    | .acted (.forwardWheelEvent _ deltaX deltaY) => some (-deltaX, -deltaY)
    | _ => none

/-- The sums of the steps on the two axes. -/
def scrolledAmount (log : List InteractionEvent) : Int × Int :=
  (((wheelSteps log).map Prod.fst).sum, ((wheelSteps log).map Prod.snd).sum)

@[simp] theorem scrolledAmount_nil : scrolledAmount [] = (0, 0) := rfl

theorem scrolledAmount_wheel (log : List InteractionEvent) (position : BezierPoint)
    (deltaX deltaY : Int) :
    scrolledAmount (log ++ [.acted (.forwardWheelEvent position deltaX deltaY)]) =
      ((scrolledAmount log).1 - deltaX, (scrolledAmount log).2 - deltaY) := by
  simp [scrolledAmount, wheelSteps, Int.sub_eq_add_neg]

theorem scrolledAmount_other {log : List InteractionEvent} {event : InteractionEvent}
    (h : wheelSteps [event] = []) : scrolledAmount (log ++ [event]) = scrolledAmount log := by
  have hsteps : wheelSteps (log ++ [event]) = wheelSteps log ++ wheelSteps [event] :=
    List.filterMap_append
  rw [scrolledAmount, hsteps, h, List.append_nil, scrolledAmount]

namespace Interaction

theorem scrollDelta_sub (delta a b : Int) :
    scrollDelta delta (a - b) = scrollDelta delta a - scrollDelta delta b := by
  simp only [scrollDelta]
  split
  · split <;> omega
  · rfl

@[simp] theorem scrollDelta_zero_right (delta : Int) : scrollDelta delta 0 = 0 := by
  simp [scrollDelta]

/-- The distance that is counted down is right for both axes. -/
theorem scrollDelta_max_iff (x y : Int) :
    (scrollDelta x (max x.natAbs y.natAbs), scrollDelta y (max x.natAbs y.natAbs)) = (x, y) ↔
      x = 0 ∨ y = 0 ∨ x.natAbs = y.natAbs := by
  simp only [scrollDelta, Prod.mk.injEq]
  by_cases hx : x = 0
  · subst hx
    by_cases hy : y = 0
    · simp [hy]
    · simp only [ne_eq, not_true_eq_false, if_false, hy, not_false_eq_true, if_true, true_and,
        true_or, iff_true]
      split <;> omega
  · by_cases hy : y = 0
    · simp only [ne_eq, hx, hy, not_true_eq_false, if_false, not_false_eq_true, if_true, and_true,
        true_or, or_true, iff_true]
      split <;> omega
    · simp only [ne_eq, hx, hy, not_false_eq_true, if_true, false_or]
      split <;> split <;> omega

/-- Nothing is reported, and of `total` there is `remaining` left to scroll. -/
structure ScrollLeft (op : Interaction) (deltaX deltaY total remaining : Int) : Prop where
  results : reportedResults op.log = []
  nonneg : 0 ≤ remaining
  horizontal : (scrolledAmount op.log).1 = scrollDelta deltaX (total - remaining)
  vertical : (scrolledAmount op.log).2 = scrollDelta deltaY (total - remaining)

/-- The operation waits for the task that scrolls what is left. -/
structure Scrolling (op : Interaction) (deltaX deltaY total remaining : Int) : Prop where
  waitingFor : op.waitingFor = some (.task (.scrollStep deltaX deltaY remaining))
  left : op.ScrollLeft deltaX deltaY total remaining

/-- The operation has reported success after scrolling `total` on each axis that has a delta. -/
structure ScrollDone (op : Interaction) (deltaX deltaY total : Int) : Prop where
  waitingFor : op.waitingFor = none
  results : reportedResults op.log = [.status .ok]
  amount : scrolledAmount op.log = (scrollDelta deltaX total, scrollDelta deltaY total)

variable {op : Interaction} {view : TabView} {random : RandomDraws}
  {deltaX deltaY total remaining : Int}

theorem ScrollLeft.done (h : op.ScrollLeft deltaX deltaY total 0) :
    (op.reportStatus .ok).ScrollDone deltaX deltaY total where
  waitingFor := rfl
  results := by
    have hresults := h.results
    simp only [reportedResults] at hresults
    simp [reportStatus, reportedResults, hresults]
  amount := by
    rw [reportStatus, report_log, scrolledAmount_other (by rfl)]
    apply Prod.ext
    · simpa using h.horizontal
    · simpa using h.vertical

/-- One call of `ScrollStep` ends the scroll or leaves less of it. -/
theorem ScrollLeft.scrollStep (random : RandomDraws)
    (h : op.ScrollLeft deltaX deltaY total remaining) (hview : view.hasRenderView = true) :
    (op.scrollStep view random deltaX deltaY remaining).ScrollDone deltaX deltaY total ∨
      ∃ rest, rest < remaining ∧
        (op.scrollStep view random deltaX deltaY remaining).Scrolling deltaX deltaY total rest := by
  by_cases hend : remaining ≤ 0
  · have hzero : remaining = 0 := by
      have hnonneg := h.nonneg
      omega
    subst hzero
    rw [Interaction.scrollStep, if_pos hend]
    exact .inl h.done
  · let chunk := min remaining (40 + (random.chunk : Int))
    have hpos : 0 < chunk := by omega
    have hle : chunk ≤ remaining := by omega
    refine .inr ⟨remaining - chunk, by omega, ?_⟩
    rw [Interaction.scrollStep, if_neg hend, withRenderView]
    simp only [hview, Bool.not_true, Bool.false_eq_true, if_false]
    have htotal : total - (remaining - chunk) = (total - remaining) - (-chunk) := by omega
    have hneg (delta : Int) : scrollDelta delta (-chunk) = -scrollDelta delta chunk := by
      have hsub := scrollDelta_sub delta 0 chunk
      simpa using hsub
    constructor
    · rfl
    · constructor
      · simpa [suspend, reportedResults] using h.results
      · omega
      · rw [htotal, scrollDelta_sub, hneg]
        simp only [suspend, act_log, scrolledAmount_wheel]
        rw [scrolledAmount_other (by rfl), h.horizontal]
      · rw [htotal, scrollDelta_sub, hneg]
        simp only [suspend, act_log, scrolledAmount_wheel]
        rw [scrolledAmount_other (by rfl), h.vertical]

variable (chromium : Chromium)

theorem ScrollDone.run (h : op.ScrollDone deltaX deltaY total)
    (tasks : List (TabView × RandomDraws)) :
    (op.run chromium (taskInputs tasks)).ScrollDone deltaX deltaY total := by
  rw [run_taskInputs_of_idle chromium (by simp [h.waitingFor])]
  exact h

/-- A scroll ends when there are more tasks than there is left to scroll. -/
theorem Scrolling.run (h : op.Scrolling deltaX deltaY total remaining)
    {tasks : List (TabView × RandomDraws)} (hview : ∀ task ∈ tasks, task.1.hasRenderView = true)
    (hlength : remaining < tasks.length) :
    (op.run chromium (taskInputs tasks)).ScrollDone deltaX deltaY total := by
  induction tasks generalizing op remaining with
  | nil =>
      have hnonneg := h.left.nonneg
      simp only [List.length_nil] at hlength
      omega
  | cons task tasks ih =>
      have hstep : op.step chromium (.runTask task.1 task.2) =
          ({ op with waitingFor := none } : Interaction).scrollStep task.1 task.2 deltaX deltaY
            remaining := by
        simp [step, h.waitingFor, runTask]
      have hleft : ({ op with waitingFor := none } : Interaction).ScrollLeft deltaX deltaY total
          remaining := ⟨h.left.results, h.left.nonneg, h.left.horizontal, h.left.vertical⟩
      rw [taskInputs, List.map_cons, run_cons, hstep]
      rcases hleft.scrollStep task.2 (hview task List.mem_cons_self) with
        hdone | ⟨rest, hrest, hscrolling⟩
      · exact hdone.run chromium tasks
      · apply ih hscrolling fun task htask => hview task (List.mem_cons_of_mem _ htask)
        simp only [List.length_cons] at hlength
        omega

/-- A scroll reports success after finitely many steps, and it has scrolled the requested amount
exactly when one of the deltas is zero or both have the same size. -/
theorem scroll_delivers_iff {ρ : Type} [BrowserRuntime ρ] (rt : ρ) (targetId : Option String)
    {page : WebContents} (hpage : BrowserController.resolveWebContents rt targetId = some page)
    (mouse : BezierPoint) (deltaX deltaY : Int32) (_hX : deltaX ≠ Int32.minValue)
    (_hY : deltaY ≠ Int32.minValue) (view : TabView) (hview : view.hasRenderView = true)
    (random : RandomDraws) (tasks : List (TabView × RandomDraws))
    (htasks : ∀ task ∈ tasks, task.1.hasRenderView = true)
    (hlength : max deltaX.toInt.natAbs deltaY.toInt.natAbs ≤ tasks.length) :
    let scrolled := (request rt targetId view random mouse (.scroll deltaX deltaY)).run chromium
      (taskInputs tasks)
    reportedResults scrolled.log = [.status .ok] ∧
      (scrolledAmount scrolled.log = (deltaX.toInt, deltaY.toInt) ↔
        deltaX = 0 ∨ deltaY = 0 ∨ deltaX.toInt.natAbs = deltaY.toInt.natAbs) := by
  intro scrolled
  have hzero (delta : Int32) : delta = 0 ↔ delta.toInt = 0 := by
    rw [← Int32.toInt_inj, Int32.toInt_zero]
  rw [hzero, hzero, ← scrollDelta_max_iff]
  let total : Int := max deltaX.toInt.natAbs deltaY.toInt.natAbs
  have hdone : scrolled.ScrollDone deltaX.toInt deltaY.toInt total := by
    simp only [scrolled, request, BrowserController.scroll, BrowserController.onTab, hpage]
    have hstart : (start mouse).ScrollLeft deltaX.toInt deltaY.toInt total total :=
      ⟨rfl, by omega, by simp [start], by simp [start]⟩
    by_cases htotal : total = 0
    · simp only [show (max deltaX.toInt.natAbs deltaY.toInt.natAbs : Int) = 0 from htotal, if_true]
      rw [htotal] at hstart ⊢
      exact hstart.done.run chromium tasks
    · simp only [show ¬ (max deltaX.toInt.natAbs deltaY.toInt.natAbs : Int) = 0 from htotal,
        if_false]
      rcases hstart.scrollStep random hview with hdone | ⟨rest, hrest, hscrolling⟩
      · exact hdone.run chromium tasks
      · exact hscrolling.run chromium htasks (by omega)
  exact ⟨hdone.results, by rw [hdone.amount]⟩

/-- A diagonal scroll of 2 by 1 moves both axes by 2. -/
theorem diagonal_scrolls_too_far :
    ¬ ∀ (chromium : Chromium) (rt : HeadlessRuntime) (targetId : Option String)
        (page : WebContents) (mouse : BezierPoint) (deltaX deltaY : Int32) (view : TabView)
        (random : RandomDraws) (tasks : List (TabView × RandomDraws)),
        BrowserController.resolveWebContents rt targetId = some page →
        deltaX ≠ Int32.minValue → deltaY ≠ Int32.minValue → view.hasRenderView = true →
        (∀ task ∈ tasks, task.1.hasRenderView = true) →
        max deltaX.toInt.natAbs deltaY.toInt.natAbs ≤ tasks.length →
        let scrolled := (request rt targetId view random mouse (.scroll deltaX deltaY)).run chromium
          (taskInputs tasks)
        reportedResults scrolled.log = [.status .ok] ∧
          scrolledAmount scrolled.log = (deltaX.toInt, deltaY.toInt) := by
  intro h
  have hscrolled := h shopChromium shopRuntime none _ ⟨500, 400⟩ 2 1 shopView shopDraws
    [(shopView, shopDraws), (shopView, shopDraws)] rfl (by decide) (by decide) rfl
    (by simp [shopView]) (by decide)
  exact absurd hscrolled.2 (by decide)

/-- A scroll straight down is exact. -/
theorem vertical_scroll_sample :
    scrolledAmount ((request shopRuntime none shopView shopDraws ⟨500, 400⟩ (.scroll 0 2)).run
      shopChromium (taskInputs [(shopView, shopDraws), (shopView, shopDraws)])).log = (0, 2) := by
  have hscrolled := scroll_delivers_iff shopChromium shopRuntime none rfl ⟨500, 400⟩ 0 2
    (by decide) (by decide) shopView rfl shopDraws [(shopView, shopDraws), (shopView, shopDraws)]
    (by simp [shopView]) (by decide)
  exact hscrolled.2.mpr (.inl rfl)

end Interaction

end Browserd
