import Mathlib.Data.List.Nodup
import Mathlib.Data.List.Zip

/-!
# Tab strips

What a browser runtime is for: distinct tabs in an order, one of which is active whenever there
is one. Closing a tab only moves the active tab when it was that tab.
-/

namespace Browserd

/-- What closing the tab `closed` may do to the active tab. -/
structure ClosePolicy {α : Type*} (active active' : Option α) (remaining : List α) (closed : α) :
    Prop where
  inactive : active ≠ some closed → active' = active
  active_none : active = some closed → remaining = [] → active' = none
  active_some : active = some closed → remaining ≠ [] → ∃ t ∈ remaining, active' = some t

@[ext]
structure TabStrip (α : Type*) where
  tabs : List α
  active : Option α
  nodup : tabs.Nodup
  active_mem : ∀ t, active = some t → t ∈ tabs
  active_isSome : tabs ≠ [] → active.isSome

namespace TabStrip

variable {α β : Type*} [DecidableEq α] [DecidableEq β]

def create (s : TabStrip α) (t : α) (fresh : t ∉ s.tabs) : TabStrip α where
  tabs := s.tabs ++ [t]
  active := some t
  nodup := by simpa using s.nodup.concat fresh
  active_mem := by simp
  active_isSome := by simp

/-- The first remaining tab takes over from an active tab that is closed. -/
def close (s : TabStrip α) (t : α) : TabStrip α where
  tabs := s.tabs.filter (· ≠ t)
  active := if s.active = some t then (s.tabs.filter (· ≠ t)).head? else s.active
  nodup := s.nodup.filter _
  active_mem := by
    intro u hu
    split at hu
    · exact List.mem_of_mem_head? hu
    · rename_i hactive
      have hne : u ≠ t := by
        rintro rfl
        exact hactive hu
      simpa [hne] using s.active_mem u hu
  active_isSome := by
    intro hne
    split
    · simpa [List.isSome_head?] using hne
    · refine s.active_isSome ?_
      rintro hnil
      simp [hnil] at hne

theorem close_active_self {s : TabStrip α} {t : α} (h : s.active = some t) :
    (s.close t).active = (s.tabs.filter (· ≠ t)).head? := by
  simp only [close, h, if_true]

theorem close_active_ne {s : TabStrip α} {t : α} (h : s.active ≠ some t) :
    (s.close t).active = s.active := by
  simp only [close, h, if_false]

theorem close_policy (s : TabStrip α) (t : α) :
    ClosePolicy s.active (s.close t).active (s.close t).tabs t where
  inactive h := close_active_ne h
  active_none h hnil := by
    have hfilter : s.tabs.filter (· ≠ t) = [] := hnil
    rw [close_active_self h, hfilter, List.head?_nil]
  active_some h hne := by
    obtain ⟨u, hu⟩ := Option.isSome_iff_exists.mp ((s.close t).active_isSome hne)
    exact ⟨u, (s.close t).active_mem u hu, hu⟩

/-- The tabs of two strips in the same places are active together. -/
def Corresponding (s : TabStrip α) (u : TabStrip β) : Prop :=
  ∃ pairs : List (α × β), s.tabs = pairs.map Prod.fst ∧ u.tabs = pairs.map Prod.snd ∧
    ∀ p ∈ pairs, s.active = some p.1 ↔ u.active = some p.2

namespace Corresponding

variable {s : TabStrip α} {u : TabStrip β}

omit [DecidableEq α] [DecidableEq β] in
theorem create {a : α} {b : β} (h : Corresponding s u) (ha : a ∉ s.tabs) (hb : b ∉ u.tabs) :
    Corresponding (s.create a ha) (u.create b hb) := by
  obtain ⟨pairs, hs, hu, -⟩ := h
  refine ⟨pairs ++ [(a, b)], by simp [TabStrip.create, hs], by simp [TabStrip.create, hu], ?_⟩
  intro p hmem
  rcases List.mem_append.mp hmem with hp | hp
  · have hne₁ : a ≠ p.1 := by
      rintro rfl
      exact ha (hs ▸ List.mem_map_of_mem hp)
    have hne₂ : b ≠ p.2 := by
      rintro rfl
      exact hb (hu ▸ List.mem_map_of_mem hp)
    simp [TabStrip.create, hne₁, hne₂]
  · obtain rfl : p = (a, b) := by simpa using hp
    simp [TabStrip.create]

omit [DecidableEq α] [DecidableEq β] in
/-- Pairs of a pairing agree in one component only if they are equal. -/
private theorem pair_eq {pairs : List (α × β)} (hs : (pairs.map Prod.fst).Nodup)
    (hu : (pairs.map Prod.snd).Nodup) {p q : α × β} (hp : p ∈ pairs) (hq : q ∈ pairs) :
    q.1 = p.1 ↔ q.2 = p.2 := by
  constructor
  · intro h
    rw [List.inj_on_of_nodup_map hs hq hp h]
  · intro h
    rw [List.inj_on_of_nodup_map hu hq hp h]

theorem close {p : α × β} (h : Corresponding s u) (hp : p ∈ s.tabs.zip u.tabs) :
    Corresponding (s.close p.1) (u.close p.2) := by
  obtain ⟨pairs, hs, hu, hactive⟩ := h
  have hzip : s.tabs.zip u.tabs = pairs := by
    rw [hs, hu, List.zip_map', ← List.map_id pairs]
    simp
  rw [hzip] at hp
  have hpair {q : α × β} (hq : q ∈ pairs) : q.1 = p.1 ↔ q.2 = p.2 :=
    pair_eq (hs ▸ s.nodup) (hu ▸ u.nodup) hp hq
  have hfst : s.tabs.filter (· ≠ p.1) = (pairs.filter fun q => q.1 ≠ p.1).map Prod.fst := by
    rw [hs, List.filter_map]
    rfl
  have hsnd : u.tabs.filter (· ≠ p.2) = (pairs.filter fun q => q.1 ≠ p.1).map Prod.snd := by
    rw [hu, List.filter_map]
    congr 1
    refine List.filter_congr ?_
    intro q hq
    simp [hpair hq]
  refine ⟨pairs.filter fun q => q.1 ≠ p.1, hfst, hsnd, ?_⟩
  intro q hq
  simp only [TabStrip.close, hactive p hp]
  by_cases hclosed : u.active = some p.2
  · -- Both fall back to the head of the same filtered pairing.
    simp only [hclosed, if_true, hfst, hsnd, List.head?_map]
    cases hhead : (pairs.filter fun q => q.1 ≠ p.1).head? with
    | none => simp
    | some r =>
        have hr : r ∈ pairs := List.mem_of_mem_filter (List.mem_of_mem_head? hhead)
        have hq' : q ∈ pairs := List.mem_of_mem_filter hq
        simpa using pair_eq (hs ▸ s.nodup) (hu ▸ u.nodup) hq' hr
  · simp only [hclosed, if_false]
    exact hactive q (List.mem_of_mem_filter hq)

end Corresponding

end TabStrip

end Browserd
