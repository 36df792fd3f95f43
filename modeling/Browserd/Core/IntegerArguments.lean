import Browserd.Core.ScrollAmount
import Browserd.Core.WaitFor

/-!
# Arguments at the ends of their range

The timeout of a wait and the deltas of a scroll come from the client as they are. The sum with the
margin of the timer and the absolute value of a delta wrap around at one end of the range, and a
timer is not armed or nothing is scrolled.
-/

namespace Browserd

/-- The options that `HandleWaitFor` reads, or the text of its error. -/
def handleWaitFor (args : DictValue) : Except String WaitOptions :=
  let options : WaitOptions :=
    ⟨args.findString "selector", args.findString "text", (args.findInt "timeout").getD 30000⟩
  match options.awaited with
  | some _ => .ok options
  | none => .error "Must provide either selector or text to wait for"

/-- The deltas that `HandleScroll` reads. -/
def handleScroll (args : DictValue) : Int32 × Int32 :=
  ((args.findInt "deltaX").getD 0, (args.findInt "deltaY").getD 0)

/-- `std::abs` wraps around at the smallest `int`. -/
def scrollTotal (deltaX deltaY : Int32) : Int32 := max deltaX.abs deltaY.abs

namespace BrowserController

variable {ρ : Type} [BrowserRuntime ρ]

/-- `Scroll` with the total of the 32-bit integers. -/
def scrollInt32 (rt : ρ) (targetId : Option String) (deltaX deltaY : Int32) (view : TabView)
    (random : RandomDraws) : Interaction → Interaction :=
  onTab rt targetId fun op =>
    let total := scrollTotal deltaX deltaY
    if total = 0 then op.reportStatus .ok
    else op.scrollStep view random deltaX.toInt deltaY.toInt total.toInt

end BrowserController

/-- The timeout of the evaluation is what it should be, and its timer runs. -/
structure WaitTimeoutExact (options : WaitOptions) : Prop where
  exact : options.nativeTimeout.toInt = options.timeout.toInt + 1000
  positive : 0 < options.nativeTimeout.toInt
  armed : ∀ view : TabView, view.hasMainFrame = true → view.mainFrameLive = true →
    (JavaScriptEvaluationRequest.start (some view)
      options.nativeTimeout.toInt).1.timeoutTimer = true
  later : options.timeout.toInt < options.nativeTimeout.toInt

/-- The total is the larger distance, and zero only where there is nothing to scroll. -/
structure ScrollTotalExact (deltaX deltaY : Int32) : Prop where
  absX : deltaX.abs.toInt = deltaX.toInt.natAbs
  absY : deltaY.abs.toInt = deltaY.toInt.natAbs
  total : (scrollTotal deltaX deltaY).toInt = max (deltaX.toInt.natAbs : Int) deltaY.toInt.natAbs
  zero : scrollTotal deltaX deltaY = 0 → deltaX = 0 ∧ deltaY = 0

theorem waitTimeoutExact_iff (options : WaitOptions) :
    WaitTimeoutExact options ↔ options.timeoutMs.toInt + 1000 < 2 ^ 31 := by
  constructor
  · intro h
    exact options.nativeTimeout_pos_iff.mp h.positive
  · intro h
    have hpos := options.nativeTimeout_pos_iff.mpr h
    have hexact : options.nativeTimeout.toInt = options.timeout.toInt + 1000 := by
      rw [options.nativeTimeout_toInt, if_pos h]
    refine ⟨hexact, hpos, ?_, by omega⟩
    intro view hmain hlive
    simp [JavaScriptEvaluationRequest.start, hmain, hlive, hpos]

section ScrollTotal

variable {deltaX deltaY : Int32}

theorem abs_toInt_iff (delta : Int32) :
    delta.abs.toInt = delta.toInt.natAbs ↔ delta ≠ Int32.minValue := by
  constructor
  · rintro h rfl
    exact absurd h (by decide)
  · intro h
    apply BitVec.toInt_abs_eq_natAbs_of_ne_intMin
    intro hmin
    exact h (Int32.toBitVec_inj.mp hmin)

theorem scrollTotal_toInt (hX : deltaX ≠ Int32.minValue) (hY : deltaY ≠ Int32.minValue) :
    (scrollTotal deltaX deltaY).toInt = max (deltaX.toInt.natAbs : Int) deltaY.toInt.natAbs := by
  have hmax (a b : Int32) : (max a b).toInt = max a.toInt b.toInt := by
    have hdef : max a b = if a ≤ b then b else a := rfl
    have hle : a ≤ b ↔ a.toInt ≤ b.toInt := Int32.le_iff_toInt_le
    rw [hdef]
    by_cases h : a ≤ b
    · rw [if_pos h]
      rw [hle] at h
      omega
    · rw [if_neg h]
      rw [hle] at h
      omega
  rw [scrollTotal, hmax, (abs_toInt_iff deltaX).mpr hX, (abs_toInt_iff deltaY).mpr hY]

theorem scrollTotalExact_iff :
    ScrollTotalExact deltaX deltaY ↔ deltaX ≠ Int32.minValue ∧ deltaY ≠ Int32.minValue := by
  constructor
  · intro h
    exact ⟨(abs_toInt_iff deltaX).mp h.absX, (abs_toInt_iff deltaY).mp h.absY⟩
  · intro h
    obtain ⟨hX, hY⟩ := h
    have htotal := scrollTotal_toInt hX hY
    refine ⟨(abs_toInt_iff deltaX).mpr hX, (abs_toInt_iff deltaY).mpr hY, htotal, ?_⟩
    intro hzero
    rw [hzero, Int32.toInt_zero] at htotal
    have hzeroX : deltaX.toInt = 0 := by omega
    have hzeroY : deltaY.toInt = 0 := by omega
    exact ⟨Int32.toInt_inj.mp hzeroX, Int32.toInt_inj.mp hzeroY⟩

end ScrollTotal

namespace BrowserController

variable {ρ : Type} [BrowserRuntime ρ] (rt : ρ) (targetId : Option String) {deltaX deltaY : Int32}
  (view : TabView) (random : RandomDraws)

/-- Within the range a scroll is the scroll of the integers. -/
theorem scrollInt32_eq_scroll (hX : deltaX ≠ Int32.minValue) (hY : deltaY ≠ Int32.minValue) :
    scrollInt32 rt targetId deltaX deltaY view random =
      scroll rt targetId deltaX deltaY view random := by
  have htotal := scrollTotal_toInt hX hY
  have hzero : scrollTotal deltaX deltaY = 0 ↔
      (max deltaX.toInt.natAbs deltaY.toInt.natAbs : Int) = 0 := by
    rw [← htotal, ← Int32.toInt_zero, Int32.toInt_inj]
  simp only [scrollInt32, scroll, hzero, htotal]

/-- A total that is not positive is reported as a success with nothing scrolled. -/
theorem scrollInt32_nonpos (h : (scrollTotal deltaX deltaY).toInt ≤ 0) :
    scrollInt32 rt targetId deltaX deltaY view random =
      onTab rt targetId fun op => op.reportStatus .ok := by
  simp [scrollInt32, Interaction.scrollStep, h]

end BrowserController

/-- The arithmetic is that of the integers exactly when the timeout leaves room for the margin and
no delta is the smallest `int`. -/
theorem integerArguments_exact_iff (options : WaitOptions) (deltaX deltaY : Int32) :
    (WaitTimeoutExact options ∧ ScrollTotalExact deltaX deltaY) ↔
      options.timeoutMs.toInt ≤ 2 ^ 31 - 1 - 1000 ∧
        deltaX ≠ Int32.minValue ∧ deltaY ≠ Int32.minValue := by
  rw [waitTimeoutExact_iff, scrollTotalExact_iff]
  have hbound : options.timeoutMs.toInt + 1000 < 2 ^ 31 ↔
      options.timeoutMs.toInt ≤ 2 ^ 31 - 1 - 1000 := by
    omega
  rw [hbound]

def longWaitArguments : DictValue :=
  [("selector", .string "#done"), ("timeout", .integer Int32.maxValue)]

def longWait : WaitOptions := ⟨some "#done", none, Int32.maxValue⟩

def leftmostScrollArguments : DictValue := [("deltaX", .integer Int32.minValue)]

/-- The longest wait has no timer, and the scroll to the far left scrolls nothing. -/
theorem integerArguments_overflow :
    handleWaitFor longWaitArguments = .ok longWait ∧
      handleScroll leftmostScrollArguments = (Int32.minValue, 0) ∧
      ¬ (∀ (options : WaitOptions) (deltaX deltaY : Int32),
        WaitTimeoutExact options ∧ ScrollTotalExact deltaX deltaY) ∧
      longWait.nativeTimeout.toInt < 0 ∧
      scrollTotal Int32.minValue 0 = 0 := by
  refine ⟨rfl, rfl, ?_, by decide, by decide⟩
  intro h
  have hzero := (h longWait Int32.minValue 0).2.zero (by decide)
  exact absurd hzero.1 (by decide)

end Browserd
