import Mathlib.Data.List.Nodup

/-!
# Registries

A list of entries, each of which may have a key, is brought in line with a list of wanted keys:
entries of other keys go, and keys without an entry get one. Nothing here refers to a particular
program.
-/

namespace Registry

variable {ε κ : Type*} [DecidableEq κ] (key : ε → Option κ) {wanted : List κ} {entries : List ε}

/-- The entries of wanted keys. -/
def kept (wanted : List κ) (entries : List ε) : List ε :=
  entries.filter fun e => (key e).any fun k => decide (k ∈ wanted)

def hasKey (entries : List ε) (k : κ) : Bool := entries.any fun e => key e == some k

/-- The wanted keys without an entry. -/
def missing (wanted : List κ) (entries : List ε) : List κ :=
  wanted.filter fun k => !hasKey key entries k

variable {key}

theorem hasKey_iff {k : κ} : hasKey key entries k = true ↔ k ∈ entries.filterMap key := by
  simp [hasKey, List.mem_filterMap]

theorem hasKey_append {k : κ} (entries new : List ε) :
    hasKey key (entries ++ new) k = (hasKey key entries k || hasKey key new k) := by
  simp [hasKey]

theorem mem_missing_iff {k : κ} :
    k ∈ missing key wanted entries ↔ k ∈ wanted ∧ k ∉ entries.filterMap key := by
  simp only [missing, List.mem_filter, Bool.not_eq_true', ← Bool.not_eq_true, hasKey_iff]

theorem filterMap_kept :
    (kept key wanted entries).filterMap key =
      (entries.filterMap key).filter fun k => decide (k ∈ wanted) := by
  rw [kept, List.filterMap_filter, List.filter_filterMap]
  apply List.filterMap_congr
  intro e _
  cases key e with
  | none => rfl
  | some k => simp [Option.filter]

theorem mem_kept_iff {e : ε} :
    e ∈ kept key wanted entries ↔ e ∈ entries ∧ ∃ k ∈ wanted, key e = some k := by
  rw [kept, List.mem_filter]
  cases key e <;> simp

omit [DecidableEq κ] in
/-- Where every entry has a key, the keys are all there is of it. -/
theorem map_key (h : ∀ e ∈ entries, ∃ k, key e = some k) :
    entries.map key = (entries.filterMap key).map some := by
  induction entries with
  | nil => rfl
  | cons e entries ih =>
      obtain ⟨k, hk⟩ := h e (by simp)
      rw [List.map_cons, List.filterMap_cons_some hk, List.map_cons, hk,
        ih fun e he => h e (by simp [he])]

theorem missing_kept :
    missing key wanted (kept key wanted entries) = missing key wanted entries := by
  apply List.filter_congr
  intro k hk
  have hiff : hasKey key (kept key wanted entries) k = hasKey key entries k := by
    rw [Bool.eq_iff_iff, hasKey_iff, hasKey_iff, filterMap_kept]
    simp [hk]
  rw [hiff]

/-- What is kept and what is added have the wanted keys, each once. -/
theorem keys_perm (hkeys : (entries.filterMap key).Nodup) (hwanted : wanted.Nodup) :
    ((kept key wanted entries).filterMap key ++ missing key wanted entries).Perm wanted := by
  rw [filterMap_kept]
  have hdisjoint : List.Disjoint ((entries.filterMap key).filter fun k => decide (k ∈ wanted))
      (missing key wanted entries) := by
    intro k hkept hmissing
    exact (mem_missing_iff.mp hmissing).2 (List.mem_of_mem_filter hkept)
  have hmissing : (missing key wanted entries).Nodup := hwanted.filter _
  have hnodup := (hkeys.filter fun k => decide (k ∈ wanted)).append hmissing hdisjoint
  rw [List.perm_ext_iff_of_nodup hnodup hwanted]
  intro k
  rw [List.mem_append, mem_missing_iff, List.mem_filter, decide_eq_true_eq]
  by_cases h : k ∈ entries.filterMap key
  · simp [h]
  · simp [h]

/-- Entries of exactly the wanted keys are left as they are. -/
theorem kept_eq_self (h : ∀ e ∈ entries, ∃ k ∈ wanted, key e = some k) :
    kept key wanted entries = entries := by
  apply List.filter_eq_self.mpr
  intro e he
  obtain ⟨k, hk, heq⟩ := h e he
  simp [heq, hk]

theorem missing_eq_nil (h : ∀ k ∈ wanted, k ∈ entries.filterMap key) :
    missing key wanted entries = [] := by
  apply List.filter_eq_nil_iff.mpr
  intro k hk
  simp [hasKey_iff.mpr (h k hk)]

end Registry
