import Mathlib.Data.Nat.Basic

/-!
# Numerals

A number is recovered from its numeral in any base up to sixteen.
-/

namespace Digits

theorem digitChar_inj {a b : Nat} (ha : a < 16) (hb : b < 16)
    (h : a.digitChar = b.digitChar) : a = b := by
  have hall : ∀ a b : Fin 16, a.val.digitChar = b.val.digitChar → a = b := by decide
  exact congrArg Fin.val (hall ⟨a, ha⟩ ⟨b, hb⟩ h)

/-- Equal numerals agree in their last digits and in what stands before them. -/
theorem toDigits_injective {base : Nat} (hbase : 1 < base) (hmax : base ≤ 16) :
    Function.Injective (Nat.toDigits base) := by
  intro a
  induction a using Nat.strongRecOn with
  | ind a ih =>
      intro b h
      have hne (n : Nat) : Nat.toDigits base n ≠ [] :=
        List.ne_nil_of_length_pos Nat.length_toDigits_pos
      have hmod (n : Nat) : n % base < 16 := Nat.lt_of_lt_of_le (Nat.mod_lt n (by omega)) hmax
      rw [Nat.toDigits_eq_if (n := a) hbase, Nat.toDigits_eq_if (n := b) hbase] at h
      split at h
      · rename_i ha
        split at h
        · exact digitChar_inj (by omega) (by omega) (List.singleton_inj.mp h)
        · have hlast : [] ++ [a.digitChar] = Nat.toDigits base (b / base) ++ [_] := h
          exact absurd (List.append_inj' hlast rfl).1.symm (hne _)
      · rename_i ha
        split at h
        · have hlast : Nat.toDigits base (a / base) ++ [_] = [] ++ [b.digitChar] := h
          exact absurd (List.append_inj' hlast rfl).1 (hne _)
        · obtain ⟨hinit, hlast⟩ := List.append_inj' h rfl
          have hdiv : a / base = b / base :=
            ih (a / base) (Nat.div_lt_self (by omega) hbase) hinit
          have hrem : a % base = b % base :=
            digitChar_inj (hmod a) (hmod b) (List.singleton_inj.mp hlast)
          rw [← Nat.div_add_mod a base, ← Nat.div_add_mod b base, hdiv, hrem]

/-- A number is known from its numeral behind a fixed beginning. -/
theorem append_toDigits_injective (beginning : String) {base : Nat} (hbase : 1 < base)
    (hmax : base ≤ 16) :
    Function.Injective fun n => beginning ++ String.ofList (Nat.toDigits base n) := by
  intro a b h
  have hlist := congrArg String.toList h
  simp only [String.toList_append, List.append_cancel_left_eq, String.toList_ofList] at hlist
  exact toDigits_injective hbase hmax hlist

theorem append_repr_injective (beginning : String) :
    Function.Injective fun n : Nat => beginning ++ n.repr :=
  append_toDigits_injective beginning (by decide) (by decide)

end Digits
