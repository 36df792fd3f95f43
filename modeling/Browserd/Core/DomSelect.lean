import Browserd.Core.DomTypeExpression

/-!
# Selecting options

What the scripts of `SelectOption` make of a `select` element. The options are set one after the
other, and after each one a drop-down that is left without a selection takes its first enabled
option.
-/

namespace Browserd

structure DomOption where
  value : List UInt16
  disabled : Bool
  selected : Bool
  deriving DecidableEq

inductive SelectEvent where
  | input
  | change
  deriving DecidableEq

/-- An element; the options are those of a `select`. -/
structure DomSelect where
  tagName : String
  isConnected : Bool
  multiple : Bool
  displaySize : Nat
  options : List DomOption
  events : List SelectEvent

/-- The last place in a list where `p` holds. -/
def lastIndex {α : Type*} (p : α → Bool) : List α → Option Nat
  | [] => none
  | a :: rest =>
      match lastIndex p rest with
      | some i => some (i + 1)
      | none => if p a then some 0 else none

/-- The options with `target` selected and no other. -/
def markOnly (target : Option Nat) (options : List DomOption) : List DomOption :=
  options.mapIdx fun i option => { option with selected := target == some i }

/-- What a `select` without a selection takes. -/
def defaultOption (displaySize : Nat) (options : List DomOption) : Option Nat :=
  if displaySize = 1 then options.findIdx? fun option => !option.disabled else none

/-- The selectedness setting algorithm of a `select` that is not multiple: of several selected
options the last one stays. -/
def askForReset (displaySize : Nat) (options : List DomOption) : List DomOption :=
  match lastIndex DomOption.selected options with
  | some i => markOnly (some i) options
  | none => markOnly (defaultOption displaySize options) options

/-- Setting `selected` of an option. -/
def setSelected (multiple : Bool) (displaySize : Nat) (options : List DomOption) (i : Nat)
    (selected : Bool) : List DomOption :=
  if multiple then options.modify i fun option => { option with selected := selected }
  else if selected then askForReset displaySize (markOnly (some i) options)
  else
    askForReset displaySize (options.modify i fun option => { option with selected := false })

/-- The body of the loop over the options. -/
def selectStep (multiple : Bool) (displaySize : Nat) (vals : List (List UInt16))
    (options : List DomOption) (i : Nat) : List DomOption :=
  match options[i]? with
  | none => options
  | some option => setSelected multiple displaySize options i (vals.contains option.value)

namespace DomSelect

/-- The loop over the options, of which there are as many as before. -/
def selectValues (vals : List (List UInt16)) (el : DomSelect) : DomSelect :=
  { el with
    options := (List.range el.options.length).foldl
      (selectStep el.multiple el.displaySize vals) el.options }

def dispatchEvent (event : SelectEvent) (el : DomSelect) : DomSelect :=
  { el with events := el.events ++ [event] }

end DomSelect

/-- What the scripts return in the end: the number of the values, found or not. -/
def selectedMessage (values : List String) : String :=
  "Selected " ++ String.ofList (Nat.toDigits 10 values.length) ++ " option(s)"

/-- What `DomRefPrelude` returns for an element that is gone. -/
def refNotFound : String := "Error: element ref not found; call browser_snapshot again"

/-- `DomSelectExpression`, evaluated in a page with `refs` as its `window.__browserdDomRefs`. -/
def domSelectExpression (index : Nat) (values : List String) (refs : List DomSelect) :
    Completion × List DomSelect :=
  match refs[index]? with
  | none => (.returned refNotFound, refs)
  | some el =>
      if !el.isConnected then (.returned refNotFound, refs)
      else if el.tagName != "SELECT" then (.returned "Error: element is not a select", refs)
      else
        let el := el.selectValues (values.map utf16)
        let el := (el.dispatchEvent .input).dispatchEvent .change
        (.returned (selectedMessage values), refs.set index el)

/-- The script of `SelectOption` for a node that has been focused. -/
def selectFocusedExpression (values : List String) (activeElement : Option DomSelect) :
    Completion × Option DomSelect :=
  match activeElement with
  | none => (.returned "Error: focused element is not a select", none)
  | some el =>
      if el.tagName != "SELECT" then (.returned "Error: focused element is not a select", some el)
      else
        let el := el.selectValues (values.map utf16)
        (.returned (selectedMessage values), some (el.dispatchEvent .change))

section Lists

variable {α : Type*} {p : α → Bool} {l : List α} {t u : Option Nat}

/-- `t` is the last place where `p` holds, if there is one. -/
structure IsLast (p : α → Bool) (l : List α) (t : Option Nat) : Prop where
  holds : ∀ i, t = some i → ∃ a, l[i]? = some a ∧ p a = true
  last : ∀ j a, l[j]? = some a → p a = true → ∃ i, t = some i ∧ j ≤ i

theorem lastIndex_isLast (p : α → Bool) (l : List α) : IsLast p l (lastIndex p l) := by
  induction l with
  | nil =>
      constructor
      · intro i hi
        cases hi
      · intro j a ha
        simp at ha
  | cons b rest ih =>
      rw [lastIndex]
      cases hrest : lastIndex p rest with
      | some k =>
          rw [hrest] at ih
          constructor
          · intro i hi
            obtain rfl := Option.some.inj hi
            simpa using ih.holds k rfl
          · intro j a ha hp
            refine ⟨k + 1, rfl, ?_⟩
            cases j with
            | zero => omega
            | succ j =>
                obtain ⟨i, hi, hle⟩ := ih.last j a (by simpa using ha) hp
                obtain rfl := Option.some.inj hi
                omega
      | none =>
          rw [hrest] at ih
          have hnone : ∀ (j : Nat) a, rest[j]? = some a → p a = true → False := by
            intro j a ha hp
            obtain ⟨i, hi, -⟩ := ih.last j a ha hp
            cases hi
          by_cases hb : p b = true
          · rw [if_pos hb]
            constructor
            · intro i hi
              obtain rfl := Option.some.inj hi
              exact ⟨b, rfl, hb⟩
            · intro j a ha hp
              cases j with
              | zero => exact ⟨0, rfl, le_refl _⟩
              | succ j => exact absurd hp fun hp => hnone j a (by simpa using ha) hp
          · rw [if_neg hb]
            constructor
            · intro i hi
              cases hi
            · intro j a ha hp
              cases j with
              | zero =>
                  obtain rfl : b = a := by simpa using ha
                  exact absurd hp hb
              | succ j => exact absurd hp fun hp => hnone j a (by simpa using ha) hp

theorem IsLast.unique (h : IsLast p l t) (hu : IsLast p l u) : t = u := by
  have hle {t u : Option Nat} (h : IsLast p l t) (hu : IsLast p l u) (i : Nat) (hi : t = some i) :
      ∃ j, u = some j ∧ i ≤ j := by
    obtain ⟨a, ha, hp⟩ := h.holds i hi
    exact hu.last i a ha hp
  cases t with
  | none =>
      cases u with
      | none => rfl
      | some j =>
          obtain ⟨i, hi, -⟩ := hle hu h j rfl
          cases hi
  | some i =>
      obtain ⟨j, rfl, hij⟩ := hle h hu i rfl
      obtain ⟨i', hi', hji⟩ := hle hu h j rfl
      obtain rfl := Option.some.inj hi'
      exact congrArg some (by omega)

theorem lastIndex_eq_iff : lastIndex p l = t ↔ IsLast p l t :=
  ⟨fun h => h ▸ lastIndex_isLast p l, fun h => (lastIndex_isLast p l).unique h⟩

end Lists

section Selecting

variable {options s : List DomOption} {t u : Option Nat} {i k displaySize : Nat}
  {vals : List (List UInt16)}

@[simp] theorem getElem?_markOnly :
    (markOnly t s)[i]? = s[i]?.map fun option => { option with selected := t == some i } :=
  List.getElem?_mapIdx

@[simp] theorem markOnly_markOnly : markOnly t (markOnly u s) = markOnly t s := by
  apply List.ext_getElem?
  intro i
  simp [Function.comp_def]

theorem getElem?_setOne (b : Bool) :
    (s.modify k fun option => { option with selected := b })[i]? =
      s[i]?.map fun option => if k = i then { option with selected := b } else option := by
  rw [List.getElem?_modify]
  rfl

theorem markOnly_modify (b : Bool) :
    markOnly t (s.modify k fun option => { option with selected := b }) = markOnly t s := by
  apply List.ext_getElem?
  intro i
  rw [getElem?_markOnly, getElem?_markOnly, getElem?_setOne]
  cases s[i]? with
  | none => rfl
  | some option => by_cases h : k = i <;> simp [h]

theorem defaultOption_congr (h : markOnly none s = markOnly none options) :
    defaultOption displaySize s = defaultOption displaySize options := by
  have henabled (l : List DomOption) : (l.findIdx? fun option => !option.disabled) =
      (markOnly none l).findIdx? fun option => !option.disabled := by
    rw [markOnly]
    induction l with
    | nil => rfl
    | cons option rest ih => simp_all [List.mapIdx_cons, List.findIdx?_cons]
  rw [defaultOption, defaultOption, henabled s, h, ← henabled options]

/-- The selected option of a list with one, unless it has been deselected. -/
theorem lastIndex_modify_markOnly (ht : ∀ i, t = some i → i < s.length) :
    lastIndex DomOption.selected
        ((markOnly t s).modify k fun option => { option with selected := false }) =
      if t = some k then none else t := by
  rw [lastIndex_eq_iff]
  constructor
  · intro i hi
    split at hi
    · cases hi
    · rename_i hne
      have hlt := ht i hi
      refine ⟨{ s[i] with selected := true }, ?_, rfl⟩
      have hki : k ≠ i := fun hki => hne (hki ▸ hi)
      rw [getElem?_setOne, getElem?_markOnly, List.getElem?_eq_getElem hlt]
      simp [hki, hi]
  · intro j a ha hselected
    rw [getElem?_setOne, getElem?_markOnly, Option.map_map] at ha
    obtain ⟨option, -, rfl⟩ := Option.map_eq_some_iff.mp ha
    by_cases hkj : k = j
    · simp [hkj] at hselected
    · have htj : t = some j := by simpa [hkj] using hselected
      refine ⟨j, ?_, le_refl _⟩
      rw [htj, if_neg fun heq => hkj (Option.some.inj heq).symm]

theorem lastIndex_markOnly (ht : ∀ i, t = some i → i < s.length) :
    lastIndex DomOption.selected (markOnly t s) = t := by
  have hnone : (markOnly t s).modify s.length (fun option => { option with selected := false }) =
      markOnly t s := by
    apply List.modify_eq_self
    simp [markOnly]
  have hlast := lastIndex_modify_markOnly (k := s.length) ht
  rw [hnone] at hlast
  rw [hlast, if_neg]
  intro heq
  exact absurd (ht _ heq) (Nat.lt_irrefl _)

theorem askForReset_eq (h : ∀ t, markOnly t s = markOnly t options) :
    askForReset displaySize s =
      markOnly ((lastIndex DomOption.selected s).or (defaultOption displaySize options))
        options := by
  rw [askForReset]
  cases lastIndex DomOption.selected s with
  | some i => exact h (some i)
  | none =>
      rw [defaultOption_congr (h none)]
      exact h _

theorem length_congr (h : markOnly none s = markOnly none options) :
    s.length = options.length := by
  have hlength := congrArg List.length h
  simpa [markOnly] using hlength

theorem getElem?_value_congr (h : markOnly none s = markOnly none options) (k : Nat) :
    s[k]?.map DomOption.value = options[k]?.map DomOption.value := by
  have hsame := congrArg (fun l => l[k]?.map DomOption.value) h
  simpa [Function.comp_def] using hsame

/-- The option at `i` is one of those asked for. -/
def Asked (vals : List (List UInt16)) (options : List DomOption) (i : Nat) : Prop :=
  ∃ option, options[i]? = some option ∧ vals.contains option.value = true

theorem selectStep_asked (h : ∀ t, markOnly t s = markOnly t options)
    (hasked : Asked vals options k) :
    selectStep false displaySize vals s k = markOnly (some k) options := by
  obtain ⟨option, hoption, hmem⟩ := hasked
  obtain ⟨hlt, -⟩ := List.getElem?_eq_some_iff.mp hoption
  have hlength := length_congr (h none)
  have hvalue := getElem?_value_congr (h none) k
  have hget : s[k]? = some s[k] := List.getElem?_eq_getElem (hlength ▸ hlt)
  rw [hget, hoption] at hvalue
  have hcontains : vals.contains s[k].value = true := by
    rw [show s[k].value = option.value from Option.some.inj hvalue]
    exact hmem
  have hstatic : ∀ t, markOnly t (markOnly (some k) s) = markOnly t options := by
    intro t
    rw [markOnly_markOnly, h]
  rw [selectStep, hget]
  simp only [hcontains, setSelected, Bool.false_eq_true, if_false, if_true]
  rw [askForReset_eq hstatic, lastIndex_markOnly]
  · rfl
  · intro i hi
    obtain rfl := Option.some.inj hi
    omega

theorem selectStep_other (h : ∀ t, markOnly t s = markOnly t options) (hlt : k < options.length)
    (hasked : ¬ Asked vals options k) :
    selectStep false displaySize vals s k =
      markOnly ((lastIndex DomOption.selected
        (s.modify k fun option => { option with selected := false })).or
          (defaultOption displaySize options)) options := by
  have hlength := length_congr (h none)
  have hvalue := getElem?_value_congr (h none) k
  have hget : s[k]? = some s[k] := List.getElem?_eq_getElem (hlength ▸ hlt)
  rw [hget, List.getElem?_eq_getElem hlt] at hvalue
  have hcontains : vals.contains s[k].value = false := by
    rw [show s[k].value = options[k].value from Option.some.inj hvalue, ← Bool.not_eq_true]
    intro hmem
    exact hasked ⟨options[k], List.getElem?_eq_getElem hlt, hmem⟩
  have hstatic : ∀ t, markOnly t
      (s.modify k fun option => { option with selected := false }) = markOnly t options := by
    intro t
    rw [markOnly_modify, h]
  rw [selectStep, hget]
  simp only [hcontains, setSelected, Bool.false_eq_true, if_false]
  exact askForReset_eq hstatic

/-- The selection after the first `k` options. -/
inductive Reached (displaySize : Nat) (vals : List (List UInt16)) (options : List DomOption)
    (k : Nat) : Option Nat → Prop
  | asked (j : Nat) (lt : j < k) (asked : Asked vals options j)
      (last : ∀ i, j < i → i < k → ¬ Asked vals options i) :
      Reached displaySize vals options k (some j)
  | ahead (i : Nat) (le : k ≤ i) (lt : i < options.length)
      (none : ∀ j, j < k → ¬ Asked vals options j) : Reached displaySize vals options k (some i)
  | default (none : ∀ j, j < k → ¬ Asked vals options j) :
      Reached displaySize vals options k (defaultOption displaySize options)

theorem Reached.step_asked (hasked : Asked vals options k) :
    Reached displaySize vals options (k + 1) (some k) := by
  apply Reached.asked k (Nat.lt_succ_self k) hasked
  intro i hlt hle
  omega

theorem defaultOption_lt (h : defaultOption displaySize options = some i) : i < options.length := by
  rw [defaultOption] at h
  split at h
  · exact (List.findIdx?_eq_some_iff_findIdx_eq.mp h).1
  · cases h

theorem Reached.lt (h : Reached displaySize vals options k t) (hk : k ≤ options.length) :
    ∀ i, t = some i → i < options.length := by
  intro i hi
  cases h with
  | asked j lt asked last =>
      obtain rfl := Option.some.inj hi
      omega
  | ahead j le lt none =>
      obtain rfl := Option.some.inj hi
      exact lt
  | default none => exact defaultOption_lt hi

theorem Reached.step_other (h : Reached displaySize vals options k t)
    (hasked : ¬ Asked vals options k) :
    Reached displaySize vals options (k + 1)
      ((if t = some k then none else t).or (defaultOption displaySize options)) := by
  have hnone (hbefore : ∀ j, j < k → ¬ Asked vals options j) :
      ∀ j, j < k + 1 → ¬ Asked vals options j := by
    intro j hj
    rcases Nat.lt_succ_iff_lt_or_eq.mp hj with hlt | rfl
    · exact hbefore j hlt
    · exact hasked
  cases h with
  | asked j lt asked last =>
      rw [if_neg fun heq => Nat.ne_of_lt lt (Option.some.inj heq), Option.some_or]
      apply Reached.asked j (by omega) asked
      intro i hji hik
      rcases Nat.lt_succ_iff_lt_or_eq.mp hik with hlt | rfl
      · exact last i hji hlt
      · exact hasked
  | ahead i le lt none =>
      by_cases heq : i = k
      · rw [if_pos (congrArg some heq), Option.none_or]
        exact .default (hnone none)
      · rw [if_neg fun hsome => heq (Option.some.inj hsome), Option.some_or]
        exact .ahead i (by omega) lt (hnone none)
  | default none =>
      split
      · exact .default (hnone none)
      · rw [Option.or_self]
        exact .default (hnone none)

/-- The loop over a `select` that is not multiple, option by option. -/
theorem selectLoop_reached (hk : k < options.length) :
    ∃ t, (List.range (k + 1)).foldl (selectStep false displaySize vals) options =
        markOnly t options ∧ Reached displaySize vals options (k + 1) t := by
  induction k with
  | zero =>
      show ∃ t, selectStep false displaySize vals options 0 = _ ∧ _
      by_cases hasked : Asked vals options 0
      · exact ⟨some 0, selectStep_asked (fun _ => rfl) hasked, .step_asked hasked⟩
      · refine ⟨_, selectStep_other (fun _ => rfl) hk hasked, ?_⟩
        have hfirst : ∀ j, j < 0 + 1 → ¬ Asked vals options j := by
          intro j hj
          obtain rfl : j = 0 := by omega
          exact hasked
        have hlast := lastIndex_isLast DomOption.selected
          (options.modify 0 fun option => { option with selected := false })
        cases hL : lastIndex DomOption.selected
            (options.modify 0 fun option => { option with selected := false }) with
        | none => exact .default hfirst
        | some i =>
            obtain ⟨a, ha, hselected⟩ := hlast.holds i hL
            rw [getElem?_setOne] at ha
            obtain ⟨option, hoption, rfl⟩ := Option.map_eq_some_iff.mp ha
            have hpos : 0 ≠ i := by
              rintro rfl
              simp at hselected
            exact .ahead i (by omega) (List.getElem?_eq_some_iff.mp hoption).1 hfirst
  | succ k ih =>
      obtain ⟨t, hs, hreached⟩ := ih (by omega)
      rw [List.range_succ, List.foldl_append, hs, List.foldl_cons, List.foldl_nil]
      have hstatic : ∀ u, markOnly u (markOnly t options) = markOnly u options := by
        intro u
        exact markOnly_markOnly
      by_cases hasked : Asked vals options (k + 1)
      · exact ⟨some (k + 1), selectStep_asked hstatic hasked, .step_asked hasked⟩
      · refine ⟨_, selectStep_other hstatic hk hasked, ?_⟩
        rw [lastIndex_modify_markOnly (hreached.lt (by omega))]
        exact hreached.step_other hasked

/-- The loop over a `select` that is multiple. -/
theorem selectLoop_multiple (k i : Nat) :
    ((List.range k).foldl (selectStep true displaySize vals) options)[i]? =
      options[i]?.map fun option =>
        if i < k then { option with selected := vals.contains option.value } else option := by
  induction k generalizing i with
  | zero => simp
  | succ k ih =>
      rw [List.range_succ, List.foldl_append, List.foldl_cons, List.foldl_nil, selectStep, ih k]
      cases hk : options[k]? with
      | none =>
          have hle : options.length ≤ k := List.getElem?_eq_none_iff.mp hk
          simp only [Option.map_none]
          rw [ih i]
          cases hi : options[i]? with
          | none => rfl
          | some option =>
              obtain ⟨hlt, -⟩ := List.getElem?_eq_some_iff.mp hi
              simp [show i < k by omega, show i < k + 1 by omega]
      | some option =>
          simp only [Option.map_some, Nat.lt_irrefl, if_false, setSelected, if_true]
          rw [getElem?_setOne, ih i, Option.map_map]
          by_cases heq : k = i
          · subst heq
            simp [hk]
          · cases options[i]? with
            | none => rfl
            | some other =>
                by_cases hlt : i < k
                · simp [heq, hlt, show i < k + 1 by omega]
                · simp [heq, hlt, show ¬ i < k + 1 by omega]

end Selecting

/-- What selecting the options with the values `vals` makes of a `select`. -/
structure SelectedAs (vals : List (List UInt16)) (el selected : DomSelect) : Prop where
  kept : selected.options.map (fun option => (option.value, option.disabled)) =
    el.options.map fun option => (option.value, option.disabled)
  /-- All that have one of the values, -/
  multiple : el.multiple = true → ∀ (i : Nat) option, selected.options[i]? = some option →
    (option.selected = true ↔ option.value ∈ vals)
  /-- the last that has one, if there is one, -/
  last : el.multiple = false → (∃ option ∈ el.options, option.value ∈ vals) →
    ∀ (i : Nat) option, selected.options[i]? = some option →
      (option.selected = true ↔ option.value ∈ vals ∧
        ∀ (j : Nat) later, i < j → el.options[j]? = some later → later.value ∉ vals)
  /-- and otherwise the first enabled option of a drop-down, and nothing in a list box. -/
  fallback : el.multiple = false → (∀ option ∈ el.options, option.value ∉ vals) →
    ∀ (i : Nat) option, selected.options[i]? = some option →
      (option.selected = true ↔ el.displaySize = 1 ∧ option.disabled = false ∧
        ∀ (j : Nat) before, j < i → el.options[j]? = some before → before.disabled = true)

section Selected

variable {vals : List (List UInt16)} {el : DomSelect} {t : Option Nat}

theorem contains_iff_mem {value : List UInt16} : vals.contains value = true ↔ value ∈ vals := by
  simp

theorem map_markOnly (options : List DomOption) :
    (markOnly t options).map (fun option => (option.value, option.disabled)) =
      options.map fun option => (option.value, option.disabled) := by
  apply List.ext_getElem?
  intro i
  simp [Function.comp_def]

/-- The loop over a `select` that is not multiple leaves this selection. -/
theorem selectValues_single (hsingle : el.multiple = false) :
    ∃ t, (el.selectValues vals).options = markOnly t el.options ∧
      Reached el.displaySize vals el.options el.options.length t := by
  rw [DomSelect.selectValues, hsingle]
  cases hlength : el.options.length with
  | zero =>
      have hnil : el.options = [] := List.length_eq_zero_iff.mp hlength
      refine ⟨defaultOption el.displaySize el.options, ?_, .default ?_⟩
      · rw [hnil]
        rfl
      · intro j hj
        omega
  | succ k => exact selectLoop_reached (by omega)

theorem selectedAs_last (h : Reached el.displaySize vals el.options el.options.length t)
    (hfound : ∃ option ∈ el.options, option.value ∈ vals) {i : Nat} {option : DomOption}
    (hoption : el.options[i]? = some option) :
    t = some i ↔ option.value ∈ vals ∧
      ∀ (j : Nat) later, i < j → el.options[j]? = some later → later.value ∉ vals := by
  have hasked : ¬ ∀ j, j < el.options.length → ¬ Asked vals el.options j := by
    intro hnone
    obtain ⟨found, hmem, hvalue⟩ := hfound
    obtain ⟨j, hlt, heq⟩ := List.mem_iff_getElem.mp hmem
    exact hnone j hlt ⟨found, List.getElem?_eq_some_iff.mpr ⟨hlt, heq⟩, contains_iff_mem.mpr hvalue⟩
  cases h with
  | default none => exact absurd none hasked
  | ahead k le lt none => exact absurd none hasked
  | asked k lt asked last =>
      obtain ⟨found, hget, hvalue⟩ := asked
      constructor
      · intro heq
        obtain rfl := Option.some.inj heq
        obtain rfl := Option.some.inj (hget.symm.trans hoption)
        refine ⟨contains_iff_mem.mp hvalue, ?_⟩
        intro j later hlater hget' hmem
        exact last j hlater (List.getElem?_eq_some_iff.mp hget').1
          ⟨later, hget', contains_iff_mem.mpr hmem⟩
      · rintro ⟨hmem, hlast⟩
        have hlt := (List.getElem?_eq_some_iff.mp hoption).1
        have hle : ¬ k < i := fun hki => last i hki hlt ⟨option, hoption, contains_iff_mem.mpr hmem⟩
        have hge : ¬ i < k := fun hik => hlast k found hik hget (contains_iff_mem.mp hvalue)
        exact congrArg some (by omega)

theorem selectedAs_fallback (h : Reached el.displaySize vals el.options el.options.length t)
    (hnone : ∀ option ∈ el.options, option.value ∉ vals) {i : Nat} {option : DomOption}
    (hoption : el.options[i]? = some option) :
    t = some i ↔ el.displaySize = 1 ∧ option.disabled = false ∧
      ∀ (j : Nat) before, j < i → el.options[j]? = some before → before.disabled = true := by
  cases h with
  | asked k lt asked last =>
      obtain ⟨found, hget, hvalue⟩ := asked
      exact absurd (contains_iff_mem.mp hvalue) (hnone found (List.mem_of_getElem? hget))
  | ahead k le lt none => omega
  | default none =>
      obtain ⟨hlt, rfl⟩ := List.getElem?_eq_some_iff.mp hoption
      rw [defaultOption]
      by_cases hsize : el.displaySize = 1
      · rw [if_pos hsize, List.findIdx?_eq_some_iff_getElem]
        constructor
        · rintro ⟨hfound, henabled, hbefore⟩
          refine ⟨hsize, by simpa using henabled, ?_⟩
          intro j before hj hget
          obtain ⟨hjlt, rfl⟩ := List.getElem?_eq_some_iff.mp hget
          simpa using hbefore j hj
        · rintro ⟨-, henabled, hbefore⟩
          refine ⟨hlt, by simpa using henabled, ?_⟩
          intro j hj
          simpa using hbefore j _ hj (List.getElem?_eq_getElem (by omega))
      · simp [hsize]

theorem selectValues_selectedAs (vals : List (List UInt16)) (el : DomSelect) :
    SelectedAs vals el (el.selectValues vals) := by
  cases hmultiple : el.multiple with
  | true =>
      have hget (i : Nat) : (el.selectValues vals).options[i]? =
          el.options[i]?.map fun option =>
            { option with selected := vals.contains option.value } := by
        rw [DomSelect.selectValues, hmultiple, selectLoop_multiple]
        cases hi : el.options[i]? with
        | none => rfl
        | some option => simp [(List.getElem?_eq_some_iff.mp hi).1]
      constructor
      · apply List.ext_getElem?
        intro i
        simp [hget, Function.comp_def]
      · intro _ i option hoption
        rw [hget] at hoption
        obtain ⟨before, -, rfl⟩ := Option.map_eq_some_iff.mp hoption
        exact contains_iff_mem
      · intro hsingle
        exact absurd (hmultiple.symm.trans hsingle) Bool.false_ne_true.symm
      · intro hsingle
        exact absurd (hmultiple.symm.trans hsingle) Bool.false_ne_true.symm
  | false =>
      obtain ⟨t, hoptions, hreached⟩ := @selectValues_single vals el hmultiple
      constructor
      · rw [hoptions, map_markOnly]
      · intro htrue
        exact absurd (hmultiple.symm.trans htrue) Bool.false_ne_true
      · intro _ hfound i option hoption
        rw [hoptions, getElem?_markOnly] at hoption
        obtain ⟨before, hbefore, rfl⟩ := Option.map_eq_some_iff.mp hoption
        rw [← selectedAs_last hreached hfound hbefore, beq_iff_eq]
      · intro _ hnone i option hoption
        rw [hoptions, getElem?_markOnly] at hoption
        obtain ⟨before, hbefore, rfl⟩ := Option.map_eq_some_iff.mp hoption
        rw [← selectedAs_fallback hreached hnone hbefore, beq_iff_eq]

theorem mentionsError_selectedMessage (values : List String) :
    mentionsError (selectedMessage values) = false := by
  have hchars (c : Char) (hc : c ∈ (selectedMessage values).toList) (hdigit : c.isDigit = false) :
      c ∈ "Selected ".toList ∨ c ∈ " option(s)".toList := by
    rw [selectedMessage, String.toList_append, String.toList_append, List.append_assoc] at hc
    rcases List.mem_append.mp hc with hc | hc
    · exact .inl hc
    · rcases List.mem_append.mp hc with hc | hc
      · rw [String.toList_ofList] at hc
        have htrue : c.isDigit = true :=
          Nat.isDigit_of_mem_toDigits (b := 10) (by decide) (by decide) hc
        exact absurd (htrue.symm.trans hdigit) Bool.false_ne_true.symm
      · exact .inr hc
  have habsent {text : String} (c : Char) (hc : c ∈ text.toList) (hdigit : c.isDigit = false)
      (hnot : ¬ (c ∈ "Selected ".toList ∨ c ∈ " option(s)".toList)) :
      ¬ text.toList <:+: (selectedMessage values).toList := by
    intro hinfix
    exact hnot (hchars c (List.IsInfix.subset hinfix hc) hdigit)
  rw [mentionsError, Bool.or_eq_false_iff]
  constructor
  · exact decide_eq_false (habsent 'E' (by decide) rfl (by decide))
  · exact decide_eq_false (habsent 'f' (by decide) rfl (by decide))

theorem isOk_returned {chromium : Chromium} {message : String} :
    ((Completion.returned message).status chromium).isOk = !mentionsError message := by
  cases h : mentionsError message <;>
    simp [Completion.status, Completion.outcome, evaluationResult, evalStatus, h, BrowserResult.ok]

theorem isOk_refused {chromium : Chromium} {message : String}
    (h : mentionsError message = true) :
    ((Completion.returned message).status chromium).isOk = false := by
  rw [isOk_returned, h]
  rfl

end Selected

/-- Selecting by a reference or in the focused element: whatever the values are, a `select` gets
the selection that they ask for and the request succeeds, also if no option has any of them. Any
other element is left alone and the request fails. -/
theorem domSelect_selects (chromium : Chromium) (index : Nat) (values : List String)
    (refs : List DomSelect) (activeElement : Option DomSelect) :
    (∀ el, refs[index]? = some el → el.isConnected = true → el.tagName = "SELECT" →
      ((domSelectExpression index values refs).1.status chromium).isOk = true ∧
        ∃ selected, (domSelectExpression index values refs).2 = refs.set index selected ∧
          SelectedAs (values.map utf16) el selected ∧
          selected.events = el.events ++ [.input, .change]) ∧
      ((∀ el, refs[index]? = some el → el.isConnected = true → el.tagName ≠ "SELECT") →
        ((domSelectExpression index values refs).1.status chromium).isOk = false ∧
          (domSelectExpression index values refs).2 = refs) ∧
      (∀ el, activeElement = some el → el.tagName = "SELECT" →
        ((selectFocusedExpression values activeElement).1.status chromium).isOk = true ∧
          ∃ selected, (selectFocusedExpression values activeElement).2 = some selected ∧
            SelectedAs (values.map utf16) el selected ∧
            selected.events = el.events ++ [.change]) ∧
      ((∀ el, activeElement = some el → el.tagName ≠ "SELECT") →
        ((selectFocusedExpression values activeElement).1.status chromium).isOk = false ∧
          (selectFocusedExpression values activeElement).2 = activeElement) := by
  have hselected (el : DomSelect) (events : List SelectEvent) :
      SelectedAs (values.map utf16) el
        { el.selectValues (values.map utf16) with events := events } := by
    have h := selectValues_selectedAs (values.map utf16) el
    exact ⟨h.kept, h.multiple, h.last, h.fallback⟩
  have hok : ((Completion.returned (selectedMessage values)).status chromium).isOk = true := by
    rw [isOk_returned, mentionsError_selectedMessage]
    rfl
  refine ⟨?_, ?_, ?_, ?_⟩
  · intro el hel hconnected htag
    simp only [domSelectExpression, hel, hconnected, htag, Bool.not_true, Bool.false_eq_true,
      if_false, bne_self_eq_false]
    refine ⟨hok, _, rfl, hselected el _, ?_⟩
    simp [DomSelect.dispatchEvent, DomSelect.selectValues]
  · intro hother
    cases hel : refs[index]? with
    | none =>
        have hresult : domSelectExpression index values refs = (.returned refNotFound, refs) := by
          simp [domSelectExpression, hel, refNotFound]
        rw [hresult]
        exact ⟨isOk_refused (by decide), rfl⟩
    | some el =>
        cases hconnected : el.isConnected with
        | false =>
            have hresult : domSelectExpression index values refs =
                (.returned refNotFound, refs) := by
              simp [domSelectExpression, hel, hconnected, refNotFound]
            rw [hresult]
            exact ⟨isOk_refused (by decide), rfl⟩
        | true =>
            have hresult : domSelectExpression index values refs =
                (.returned "Error: element is not a select", refs) := by
              simp [domSelectExpression, hel, hconnected, hother el hel hconnected]
            rw [hresult]
            exact ⟨isOk_refused (by decide), rfl⟩
  · intro el hel htag
    simp only [selectFocusedExpression, hel, htag, bne_self_eq_false, Bool.false_eq_true, if_false]
    exact ⟨hok, _, rfl, hselected el _, rfl⟩
  · intro hother
    have hresult : selectFocusedExpression values activeElement =
        (.returned "Error: focused element is not a select", activeElement) := by
      cases hel : activeElement with
      | none => rfl
      | some el => simp [selectFocusedExpression, hother el hel]
    rw [hresult]
    exact ⟨isOk_refused (by decide), rfl⟩

end Browserd
