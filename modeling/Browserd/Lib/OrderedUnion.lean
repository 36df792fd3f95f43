import Mathlib.Data.List.Basic
import Mathlib.Data.List.Induction
import Mathlib.Data.List.Nodup

/-!
# Ordered unions

A list that takes up the elements of another one that it does not have yet, in their order. With
repeated elements dropped it is the concatenation of the two.
-/

namespace OrderedUnion

variable {α : Type*} [BEq α] [LawfulBEq α]

omit [LawfulBEq α] in
/-- `xs` with the elements of `ys` that it does not have. -/
def union (xs ys : List α) : List α :=
  ys.foldl (fun xs y => if xs.contains y then xs else xs ++ [y]) xs

theorem union_cons_of_mem {xs ys : List α} {y : α} (h : y ∈ xs) :
    union xs (y :: ys) = union xs ys := by
  simp [union, h]

theorem union_cons_of_notMem {xs ys : List α} {y : α} (h : y ∉ xs) :
    union xs (y :: ys) = union (xs ++ [y]) ys := by
  simp [union, h]

/-- The element repeats one that is there already. -/
theorem eraseDups_append_cons {xs ys : List α} {y : α} (h : y ∈ xs) :
    (xs ++ y :: ys).eraseDups = (xs ++ ys).eraseDups := by
  rw [List.eraseDups_append, List.eraseDups_append, List.cons_removeAll]
  simp [h]

theorem eraseDups_union (xs ys : List α) : (union xs ys).eraseDups = (xs ++ ys).eraseDups := by
  induction ys generalizing xs with
  | nil => simp [union]
  | cons y ys ih =>
      by_cases h : y ∈ xs
      · rw [union_cons_of_mem h, ih, eraseDups_append_cons h]
      · rw [union_cons_of_notMem h, ih]
        simp

theorem mem_union {x : α} {xs ys : List α} : x ∈ union xs ys ↔ x ∈ xs ∨ x ∈ ys := by
  rw [← List.mem_eraseDups, eraseDups_union, List.mem_eraseDups, List.mem_append]

/-- What is appended does not tell two lists apart that are the same without their repeated
elements. -/
theorem eraseDups_append_congr {xs ys zs : List α} (h : xs.eraseDups = ys.eraseDups) :
    (xs ++ zs).eraseDups = (ys ++ zs).eraseDups := by
  have hmem : ∀ z, z ∈ xs ↔ z ∈ ys := by
    intro z
    rw [← List.mem_eraseDups, h, List.mem_eraseDups]
  have hrest : zs.removeAll xs = zs.removeAll ys := by
    simp [List.removeAll, hmem]
  rw [List.eraseDups_append, List.eraseDups_append, h, hrest]

theorem eraseDups_filter (p : α → Bool) (xs : List α) :
    (xs.filter p).eraseDups = xs.eraseDups.filter p := by
  induction xs using List.reverseRecOn with
  | nil => rfl
  | append_singleton xs x ih =>
      cases hx : p x
      case false =>
        have hkept : ([x].removeAll xs).eraseDups.filter p = [] := by
          rw [List.filter_eq_nil_iff]
          intro y hy
          have hy : y ∈ [x] := (List.mem_filter.mp (List.mem_eraseDups.mp hy)).1
          simp [List.mem_singleton.mp hy, hx]
        rw [List.eraseDups_append, List.filter_append, List.filter_append, hkept, ← ih]
        simp [hx]
      case true =>
        by_cases hmem : x ∈ xs
        · have hfiltered : x ∈ xs.filter p := List.mem_filter.mpr ⟨hmem, hx⟩
          simp [List.eraseDups_append, List.cons_removeAll, hx, hmem, hfiltered, ih]
        · have hfiltered : x ∉ xs.filter p := fun h => hmem (List.mem_filter.mp h).1
          simp [List.eraseDups_append, List.cons_removeAll, hx, hmem, hfiltered, ih,
            List.eraseDups_cons]

/-- A concatenation repeats nothing that is in its first part. -/
theorem eraseDups_append_filter (xs ys : List α) :
    (xs ++ ys).eraseDups =
      xs.eraseDups ++ ys.eraseDups.filter fun y => !xs.eraseDups.contains y := by
  rw [List.eraseDups_append, List.removeAll, eraseDups_filter]
  simp

theorem nodup_eraseDups (xs : List α) : xs.eraseDups.Nodup := by
  induction xs using List.reverseRecOn with
  | nil => exact List.nodup_nil
  | append_singleton xs x ih =>
      rw [eraseDups_append_filter]
      apply List.Nodup.append ih
      · apply List.Nodup.filter
        simp [List.eraseDups_cons]
      · intro y hy hnew
        simp [List.mem_eraseDups.mp hy] at hnew

/-- Neither is a list told apart from the same without its repeated elements when it is
appended. -/
theorem eraseDups_append_congr_right {xs ys zs : List α} (h : ys.eraseDups = zs.eraseDups) :
    (xs ++ ys).eraseDups = (xs ++ zs).eraseDups := by
  rw [eraseDups_append_filter, eraseDups_append_filter, h]

end OrderedUnion
