import Mathlib.Data.List.Nodup

/-!
# Stages that each set one key

A state that is read key by key, and a pipeline of stages each of which sets what one key reads,
in such a way that setting it again changes nothing. The pipeline changes each key on its own, and
if the keys differ it is idempotent too.
-/

variable {σ κ α : Type*} [DecidableEq κ]

/-- A step of a pipeline that sets `key` by `set` and leaves the other keys alone. -/
structure Stage (lookup : σ → κ → α) where
  key : κ
  set : α → α
  run : σ → σ
  lookup_run : ∀ s k, lookup (run s) k = if k = key then set (lookup s k) else lookup s k
  set_set : ∀ a, set (set a) = set a

namespace Stage

variable {lookup : σ → κ → α}

def runAll (stages : List (Stage lookup)) (s : σ) : σ :=
  stages.foldl (fun s stage => stage.run s) s

/-- What the pipeline makes of the value at the key `k`. -/
def valueAt (stages : List (Stage lookup)) (k : κ) (a : α) : α :=
  stages.foldl (fun a stage => if k = stage.key then stage.set a else a) a

theorem lookup_runAll (stages : List (Stage lookup)) (s : σ) (k : κ) :
    lookup (runAll stages s) k = valueAt stages k (lookup s k) := by
  induction stages generalizing s with
  | nil => rfl
  | cons stage stages ih =>
      simp only [runAll, valueAt, List.foldl_cons] at ih ⊢
      rw [ih, stage.lookup_run]

theorem valueAt_cons (stage : Stage lookup) (stages : List (Stage lookup)) (k : κ) (a : α) :
    valueAt (stage :: stages) k a =
      valueAt stages k (if k = stage.key then stage.set a else a) := rfl

theorem valueAt_of_notMem {stages : List (Stage lookup)} {k : κ} (h : k ∉ stages.map Stage.key)
    (a : α) : valueAt stages k a = a := by
  induction stages with
  | nil => rfl
  | cons stage stages ih =>
      simp only [List.map_cons, List.mem_cons, not_or] at h
      rw [valueAt_cons, if_neg h.1, ih h.2]

/-- With distinct keys a value goes through one stage. -/
theorem valueAt_of_mem {stages : List (Stage lookup)} (hkeys : (stages.map Stage.key).Nodup)
    {stage : Stage lookup} (h : stage ∈ stages) (a : α) :
    valueAt stages stage.key a = stage.set a := by
  induction stages with
  | nil => cases h
  | cons first stages ih =>
      rw [List.map_cons, List.nodup_cons] at hkeys
      rw [valueAt_cons]
      rcases List.mem_cons.mp h with rfl | h
      · rw [if_pos rfl, valueAt_of_notMem hkeys.1]
      · have hne : stage.key ≠ first.key := by
          intro heq
          exact hkeys.1 (heq ▸ List.mem_map_of_mem h)
        rw [if_neg hne, ih hkeys.2 h]

theorem lookup_runAll_runAll {stages : List (Stage lookup)}
    (hkeys : (stages.map Stage.key).Nodup) (s : σ) (k : κ) :
    lookup (runAll stages (runAll stages s)) k = lookup (runAll stages s) k := by
  rw [lookup_runAll stages, lookup_runAll stages]
  by_cases hmem : k ∈ stages.map Stage.key
  · obtain ⟨stage, hstage, rfl⟩ := List.mem_map.mp hmem
    rw [valueAt_of_mem hkeys hstage, valueAt_of_mem hkeys hstage, stage.set_set]
  · rw [valueAt_of_notMem hmem, valueAt_of_notMem hmem]

end Stage
