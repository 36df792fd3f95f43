import Browserd.Core.DomSnapshot
import Mathlib.Data.List.Chain

/-!
# The names in a snapshot

A name is cleaned when it is taken from the element, and once more when it is quoted. The second
time changes it only if the cut at its end has left a space there.
-/

namespace Browserd.DomSnapshot

/-- A text whose spaces are single blanks. -/
structure Tidy (text : List UInt16) : Prop where
  blank : ∀ c ∈ text, isSpace c = true → c = space
  single : text.IsChain fun c d => isSpace c = true → isSpace d = false

section Clean

variable {text : List UInt16} {inRun : Bool}

theorem head_collapse_true (text : List UInt16) :
    ∀ c ∈ (collapse true text).head?, isSpace c = false := by
  induction text with
  | nil => simp [collapse]
  | cons c rest ih =>
      cases hc : isSpace c with
      | true => simpa [collapse, hc] using ih
      | false => simp [collapse, hc]

theorem tidy_collapse (inRun : Bool) (text : List UInt16) : Tidy (collapse inRun text) := by
  induction text generalizing inRun with
  | nil => exact ⟨by simp [collapse], by simp [collapse]⟩
  | cons c rest ih =>
      cases hc : isSpace c with
      | true =>
          cases inRun with
          | true => simpa [collapse, hc] using ih true
          | false =>
              have hrest := ih true
              constructor
              · intro d hd hspace
                simp only [collapse, hc, if_true, Bool.false_eq_true, if_false, List.mem_cons] at hd
                rcases hd with rfl | hd
                · rfl
                · exact hrest.blank d hd hspace
              · simp only [collapse, hc, if_true, Bool.false_eq_true, if_false]
                rw [List.isChain_cons]
                exact ⟨fun d hd _ => head_collapse_true rest d hd, hrest.single⟩
      | false =>
          have hrest := ih false
          constructor
          · intro d hd hspace
            simp only [collapse, hc, Bool.false_eq_true, if_false, List.mem_cons] at hd
            rcases hd with rfl | hd
            · rw [hc] at hspace
              cases hspace
            · exact hrest.blank d hd hspace
          · simp only [collapse, hc, Bool.false_eq_true, if_false]
            rw [List.isChain_cons]
            exact ⟨fun d _ hspace => absurd (hc.symm.trans hspace) (by simp), hrest.single⟩

/-- A tidy text is left as it is. -/
theorem collapse_of_tidy (h : Tidy text)
    (hhead : inRun = true → ∀ c ∈ text.head?, isSpace c = false) : collapse inRun text = text := by
  induction text generalizing inRun with
  | nil => rfl
  | cons c rest ih =>
      have hrest : Tidy rest := ⟨fun d hd => h.blank d (List.mem_cons_of_mem _ hd), h.single.tail⟩
      cases hc : isSpace c with
      | true =>
          have hrun : inRun = false := by
            by_contra hrun
            have := hhead (by simpa using hrun) c rfl
            rw [hc] at this
            cases this
          have hblank := h.blank c (List.mem_cons_self ..) hc
          have hnext : ∀ d ∈ rest.head?, isSpace d = false :=
            fun d hd => (List.isChain_cons.mp h.single).1 d hd hc
          simp only [collapse, hc, hrun, if_true, Bool.false_eq_true, if_false]
          rw [ih hrest fun _ => hnext, hblank]
      | false =>
          simp only [collapse, hc, Bool.false_eq_true, if_false]
          rw [ih hrest (by simp)]

theorem isInfix_trim (text : List UInt16) : trim text <:+: text :=
  (List.rdropWhile_prefix _ _).isInfix.trans (List.dropWhile_suffix _).isInfix

theorem isInfix_clean (text : List UInt16) : clean text <:+: collapse false text :=
  (List.take_prefix _ _).isInfix.trans (isInfix_trim _)

theorem tidy_clean (text : List UInt16) : Tidy (clean text) := by
  have htidy := tidy_collapse false text
  exact ⟨fun c hc => htidy.blank c ((isInfix_clean text).subset hc),
    htidy.single.infix (isInfix_clean text)⟩

theorem length_clean (text : List UInt16) : (clean text).length ≤ 160 := by
  rw [clean, List.length_take]
  exact min_le_left _ _

theorem head_clean {c : UInt16} (h : (clean text).head? = some c) : isSpace c = false := by
  have hprefix : clean text <+: (collapse false text).dropWhile isSpace :=
    (List.take_prefix _ _).trans (List.rdropWhile_prefix _ _)
  obtain ⟨rest, hrest⟩ := hprefix
  have hhead : ((collapse false text).dropWhile isSpace).head? = some c := by
    rw [← hrest, List.head?_append, h]
    rfl
  have hdropped := List.head?_dropWhile_not isSpace (collapse false text)
  rw [hhead] at hdropped
  exact hdropped

theorem newline16_notMem_clean (text : List UInt16) : newline16 ∉ clean text := by
  intro h
  exact absurd ((tidy_clean text).blank _ h (by decide)) (by decide)

theorem clean_clean (text : List UInt16) :
    clean (clean text) = (clean text).rdropWhile isSpace := by
  have hcollapse : collapse false (clean text) = clean text :=
    collapse_of_tidy (tidy_clean text) (by simp)
  have hdrop : (clean text).dropWhile isSpace = clean text := by
    rw [List.dropWhile_eq_self_iff]
    intro hpos hspace
    have hfalse := head_clean (List.head?_eq_getElem? ▸ List.getElem?_eq_getElem hpos)
    exact absurd (hfalse.symm.trans hspace) (by simp)
  have hlength := ((List.rdropWhile_prefix isSpace (clean text)).length_le).trans
    (length_clean text)
  conv_lhs => rw [clean]
  rw [hcollapse, trim, hdrop, List.take_of_length_le hlength]

/-- What is cleaned again loses the space that it ends with, and nothing else. -/
theorem clean_clean_iff (text : List UInt16) :
    clean (clean text) = clean text ↔ (clean text).getLast? ≠ some space := by
  rw [clean_clean, List.rdropWhile_eq_self_iff]
  constructor
  · intro hlast hspace
    have hne : clean text ≠ [] := by
      intro hnil
      rw [hnil] at hspace
      cases hspace
    rw [List.getLast?_eq_some_getLast hne] at hspace
    apply hlast hne
    rw [Option.some.inj hspace]
    rfl
  · intro hlast hne hspace
    apply hlast
    rw [List.getLast?_eq_some_getLast hne,
      (tidy_clean text).blank _ (List.getLast_mem hne) hspace]

end Clean

end Browserd.DomSnapshot
