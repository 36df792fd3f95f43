import Mathlib.Data.List.Nodup

/-!
# Moves between lists

What is in exactly one of several lists is counted over all of them. A move takes it out of one
list and puts it into another. In a list without repetition a thing is known by its index.
-/

namespace Places

variable {α : Type*} {a : α} {l : List α}

theorem count_erase_add [DecidableEq α] (h : a ∈ l) (b : α) :
    (l.erase a).count b + [a].count b = l.count b := by
  have hperm : l.count b = (a :: l.erase a).count b := (List.perm_cons_erase h).count_eq b
  rw [← List.singleton_append, List.count_append] at hperm
  omega

/-- What a search finds can be taken out to the front. -/
theorem perm_cons_eraseP {p : α → Bool} (h : l.find? p = some a) : l.Perm (a :: l.eraseP p) := by
  induction l with
  | nil => simp at h
  | cons b l ih =>
      by_cases hb : p b
      · rw [List.find?_cons_of_pos hb] at h
        obtain rfl := Option.some.inj h
        rw [List.eraseP_cons_of_pos hb]
      · rw [List.find?_cons_of_neg hb] at h
        rw [List.eraseP_cons_of_neg hb]
        exact ((ih h).cons b).trans (.swap a b _)

section Distinct

variable {i : Nat}

theorem mem_eraseIdx_iff [DecidableEq α] {b : α} (hnodup : l.Nodup) (ha : l[i]? = some a) :
    b ∈ l.eraseIdx i ↔ b ≠ a ∧ b ∈ l := by
  obtain ⟨hlt, rfl⟩ := List.getElem?_eq_some_iff.mp ha
  rw [← hnodup.erase_getElem i hlt]
  exact hnodup.mem_erase_iff

/-- Among distinct names the search ends at the one that is looked for. -/
theorem findIdx?_of_nodup {β : Type*} [BEq β] [LawfulBEq β] {name : α → β}
    (hnodup : (l.map name).Nodup) (ha : l[i]? = some a) :
    (l.findIdx? fun b => name b == name a) = some i := by
  obtain ⟨hlt, rfl⟩ := List.getElem?_eq_some_iff.mp ha
  apply List.findIdx?_eq_some_iff_getElem.mpr
  refine ⟨hlt, by simp, ?_⟩
  intro j hj hsame
  have hjlt : j < l.length := Nat.lt_trans hj hlt
  have hnames : (l.map name)[j]? = (l.map name)[i]? := by
    simpa [hlt, hjlt] using hsame
  have hindex := (List.getElem?_inj (by simpa using hjlt) hnodup).mp hnames
  omega

end Distinct

end Places
