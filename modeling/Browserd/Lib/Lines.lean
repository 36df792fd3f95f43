import Mathlib.Algebra.GroupWithZero.Nat
import Mathlib.Data.List.Basic

/-!
# Terminated lines of a stream

A stream cut at a separator: the pieces that a separator terminates, and the tail after the
last one. The pieces can be collected chunk by chunk, keeping only the tail in between.
-/

namespace Lines

variable {α : Type*} [BEq α] [LawfulBEq α]

/-- The pieces of `s` that `sep` terminates. -/
def terminated (sep : α) (s : List α) : List (List α) :=
  (s.splitOn sep).dropLast

/-- What follows the last `sep` of `s`. -/
def unterminated (sep : α) (s : List α) : List α :=
  (s.splitOn sep).getLast (List.splitOn_ne_nil sep s)

omit [BEq α] [LawfulBEq α] in
/-- The stream whose terminated pieces are `lines`. -/
def join (sep : α) (lines : List (List α)) : List α :=
  lines.flatMap fun line => line ++ [sep]

omit [BEq α] [LawfulBEq α] in
@[simp] theorem join_nil (sep : α) : join sep [] = [] := rfl

omit [BEq α] [LawfulBEq α] in
@[simp] theorem join_cons (sep : α) (line : List α) (lines : List (List α)) :
    join sep (line :: lines) = line ++ sep :: join sep lines := by
  simp [join]

theorem terminated_of_notMem {sep : α} {s : List α} (h : sep ∉ s) : terminated sep s = [] := by
  simp [terminated, List.splitOn_eq_singleton h]

theorem unterminated_of_notMem {sep : α} {s : List α} (h : sep ∉ s) :
    unterminated sep s = s := by
  simp [unterminated, List.splitOn_eq_singleton h]

theorem terminated_cons {sep : α} {line : List α} (h : sep ∉ line) (rest : List α) :
    terminated sep (line ++ sep :: rest) = line :: terminated sep rest := by
  rw [terminated, List.splitOn_append_cons_self, List.splitOn_eq_singleton h,
    List.dropLast_append_of_ne_nil (List.splitOn_ne_nil sep rest)]
  rfl

theorem unterminated_cons (sep : α) (line rest : List α) :
    unterminated sep (line ++ sep :: rest) = unterminated sep rest := by
  simp only [unterminated, List.splitOn_append_cons_self]
  exact List.getLast_append_of_ne_nil _ (List.splitOn_ne_nil sep rest)

/-- Every stream is a tail without separator, or a line without separator, a separator and a
shorter stream. -/
theorem induction (sep : α) {motive : List α → Prop}
    (tail : ∀ s, sep ∉ s → motive s)
    (line : ∀ l rest, sep ∉ l → motive rest → motive (l ++ sep :: rest)) (s : List α) :
    motive s := by
  induction hn : s.length using Nat.strongRecOn generalizing s with
  | _ n ih =>
      by_cases hmem : sep ∈ s
      · obtain ⟨l, rest, rfl, hl⟩ := List.eq_append_cons_of_mem hmem
        refine line l rest hl (ih rest.length ?_ rest rfl)
        simp only [List.length_append, List.length_cons] at hn
        omega
      · exact tail s hmem

theorem mem_splitOn {sep : α} {s piece : List α} (h : piece ∈ s.splitOn sep) :
    sep ∉ piece ∧ piece ⊆ s := by
  induction s using Lines.induction sep with
  | tail s hs =>
      rw [List.splitOn_eq_singleton hs, List.mem_singleton] at h
      rw [h]
      exact ⟨hs, List.Subset.refl s⟩
  | line l rest hl ih =>
      rw [List.splitOn_append_cons_self_of_not_mem hl, List.mem_cons] at h
      rcases h with rfl | h
      · exact ⟨hl, List.subset_append_left _ _⟩
      · have hrest := ih h
        exact ⟨hrest.1, fun c hc => List.mem_append_right _ (List.mem_cons_of_mem _ (hrest.2 hc))⟩

theorem exists_mem_splitOn {sep c : α} {s : List α} (hc : c ∈ s) (hne : c ≠ sep) :
    ∃ piece ∈ s.splitOn sep, c ∈ piece := by
  induction s using Lines.induction sep with
  | tail s hs =>
      exists s
      rw [List.splitOn_eq_singleton hs]
      exact ⟨List.mem_singleton_self s, hc⟩
  | line l rest hl ih =>
      rw [List.splitOn_append_cons_self_of_not_mem hl]
      rcases List.mem_append.mp hc with hc | hc
      · exact ⟨l, List.mem_cons_self, hc⟩
      · obtain ⟨piece, hpiece, hmem⟩ := ih ((List.mem_cons.mp hc).resolve_left hne)
        exact ⟨piece, List.mem_cons_of_mem _ hpiece, hmem⟩

/-- Pieces with a separator between them are split into the same pieces. -/
theorem splitOn_separated {sep : α} {first : List α} {rest : List (List α)} (hfirst : sep ∉ first)
    (hrest : ∀ piece ∈ rest, sep ∉ piece) :
    (first ++ rest.flatMap fun piece => sep :: piece).splitOn sep = first :: rest := by
  induction rest generalizing first with
  | nil => simp [List.splitOn_eq_singleton hfirst]
  | cons piece rest ih =>
      have hpiece := hrest piece (List.mem_cons_self ..)
      have hpieces : ∀ other ∈ rest, sep ∉ other :=
        fun other hother => hrest other (List.mem_cons_of_mem _ hother)
      rw [List.flatMap_cons, List.cons_append, List.splitOn_append_cons_self_of_not_mem hfirst,
        ih hpiece hpieces]

theorem terminated_join {sep : α} {lines : List (List α)} (h : ∀ line ∈ lines, sep ∉ line)
    (rest : List α) :
    terminated sep (join sep lines ++ rest) = lines ++ terminated sep rest := by
  induction lines with
  | nil => simp
  | cons line lines ih =>
      have hline := h line (List.mem_cons_self ..)
      have hlines : ∀ l ∈ lines, sep ∉ l := fun l hl => h l (List.mem_cons_of_mem _ hl)
      rw [join_cons, List.append_assoc, List.cons_append, terminated_cons hline, ih hlines,
        List.cons_append]

theorem unterminated_join (sep : α) (lines : List (List α)) (rest : List α) :
    unterminated sep (join sep lines ++ rest) = unterminated sep rest := by
  induction lines with
  | nil => simp
  | cons line lines ih =>
      rw [join_cons, List.append_assoc, List.cons_append, unterminated_cons, ih]

/-- The pieces and the tail make up the stream. -/
theorem join_terminated (sep : α) (s : List α) :
    join sep (terminated sep s) ++ unterminated sep s = s := by
  induction s using Lines.induction sep with
  | tail s h => simp [terminated_of_notMem h, unterminated_of_notMem h]
  | line l rest h ih =>
      rw [terminated_cons h, unterminated_cons, join_cons, List.append_assoc, List.cons_append, ih]

/-- Each separator ends one piece. -/
theorem length_terminated (sep : α) (s : List α) : (terminated sep s).length = s.count sep := by
  induction s using Lines.induction sep with
  | tail s h => simp [terminated_of_notMem h, List.count_eq_zero.mpr h]
  | line l rest h ih =>
      rw [terminated_cons h, List.length_cons, ih, List.count_append, List.count_cons_self,
        List.count_eq_zero.mpr h, Nat.zero_add]

theorem count_join (sep : α) (lines : List (List α)) :
    (join sep lines).count sep = (lines.map fun line => line.count sep).sum + lines.length := by
  induction lines with
  | nil => rfl
  | cons line lines ih =>
      rw [join_cons, List.count_append, List.count_cons_self, ih, List.map_cons, List.sum_cons,
        List.length_cons]
      omega

omit [BEq α] [LawfulBEq α] in
/-- A separator between the pieces and one after the last. -/
theorem intercalate_append (sep : α) {lines : List (List α)} (h : lines ≠ []) :
    [sep].intercalate lines ++ [sep] = join sep lines := by
  induction lines with
  | nil => exact absurd rfl h
  | cons line lines ih =>
      cases lines with
      | nil => simp
      | cons next lines =>
          rw [List.intercalate_cons_cons, List.append_assoc, ih (by simp), join_cons sep line]
          simp

theorem notMem_of_mem_terminated {sep : α} {s line : List α} (h : line ∈ terminated sep s) :
    sep ∉ line := by
  induction s using Lines.induction sep with
  | tail s hs => simp [terminated_of_notMem hs] at h
  | line l rest hl ih =>
      rw [terminated_cons hl] at h
      rcases List.mem_cons.mp h with rfl | h
      · exact hl
      · exact ih h

theorem notMem_unterminated (sep : α) (s : List α) : sep ∉ unterminated sep s := by
  induction s using Lines.induction sep with
  | tail s hs => rwa [unterminated_of_notMem hs]
  | line l rest _ ih => rwa [unterminated_cons]

/-- Reading `t` after `s` only needs the tail of `s`. -/
theorem terminated_append (sep : α) (s t : List α) :
    terminated sep (s ++ t) = terminated sep s ++ terminated sep (unterminated sep s ++ t) := by
  conv_lhs => rw [← join_terminated sep s, List.append_assoc]
  exact terminated_join (fun _ => notMem_of_mem_terminated) _

theorem unterminated_append (sep : α) (s t : List α) :
    unterminated sep (s ++ t) = unterminated sep (unterminated sep s ++ t) := by
  conv_lhs => rw [← join_terminated sep s, List.append_assoc]
  exact unterminated_join sep _ _

end Lines
