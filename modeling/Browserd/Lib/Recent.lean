import Mathlib.Data.List.DropRight
import Mathlib.Logic.Function.Iterate

/-!
# Bounded logs

A list to which elements are pushed at the end, and from whose front one is shifted out when there
are more than `bound`.
-/

namespace Recent

variable {α β : Type*} {bound : Nat} {x : α} {l : List α}

def push (bound : Nat) (x : α) (l : List α) : List α :=
  if bound < (l ++ [x]).length then (l ++ [x]).tail else l ++ [x]

theorem length_push (h : l.length ≤ bound) :
    (push bound x l).length = min bound (l.length + 1) := by
  unfold push
  split
  · rename_i hlong
    simp only [List.length_append, List.length_singleton] at hlong
    simp only [List.length_tail, List.length_append, List.length_singleton]
    omega
  · rename_i hshort
    simp only [List.length_append, List.length_singleton] at hshort ⊢
    omega

theorem length_iterate_push (h : l.length ≤ bound) (n : Nat) :
    ((push bound x)^[n] l).length = min bound (l.length + n) := by
  induction n generalizing l with
  | zero => simp [h]
  | succ n ih =>
      have hnext : (push bound x l).length = min bound (l.length + 1) := length_push h
      rw [Function.iterate_succ_apply, ih (by omega), hnext]
      omega

theorem map_push (f : α → β) : (push bound x l).map f = push bound (f x) (l.map f) := by
  unfold push
  simp only [List.length_append, List.length_map, List.length_singleton]
  split
  · rw [List.map_tail, List.map_append, List.map_singleton]
  · rw [List.map_append, List.map_singleton]

/-- A log that has been pushed to from the start holds the most recent elements. -/
theorem push_rtake : push bound x (l.rtake bound) = (l ++ [x]).rtake bound := by
  have hlength : (l.rtake bound).length = min bound l.length := by
    rw [List.rtake.eq_1, List.length_drop]
    omega
  unfold push
  simp only [List.length_append, List.length_singleton, hlength]
  split
  · rename_i hlong
    have hbound : bound ≤ l.length := by omega
    rw [List.rtake.eq_1, List.rtake.eq_1, ← List.drop_one,
      ← List.drop_append_of_le_length (by omega), List.drop_drop, List.length_append,
      List.length_singleton]
    congr 1
    omega
  · rename_i hshort
    rw [List.rtake.eq_1, List.rtake.eq_1, List.length_append, List.length_singleton,
      Nat.sub_eq_zero_of_le (by omega), Nat.sub_eq_zero_of_le (by omega)]
    rfl

end Recent
