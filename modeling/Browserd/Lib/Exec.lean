import Mathlib.Data.List.Infix

/-!
# Finite runs and histories

Runs of a labelled transition relation, the invariant rule for them, and properties that hold
at every moment of a recorded history. Nothing here refers to a particular program.
-/

namespace Transition

variable {σ ε α : Type*}

/-- The labels `es`, taken in order, lead from the first state to the last. -/
inductive Exec (tr : σ → ε → σ → Prop) : σ → List ε → σ → Prop
  | nil (s : σ) : Exec tr s [] s
  | cons {s t u : σ} {e : ε} {es : List ε} (head : tr s e t) (tail : Exec tr t es u) :
      Exec tr s (e :: es) u

/-- The transition relation of a partial step function. -/
def Step (step : σ → ε → Option σ) : σ → ε → σ → Prop :=
  fun s e t => step s e = some t

/-- The transitions of `tr` whose state and label satisfy `guard`. -/
def Guarded (tr : σ → ε → σ → Prop) (guard : σ → ε → Prop) : σ → ε → σ → Prop :=
  fun s e t => tr s e t ∧ guard s e

/-- The transitions of `tr` that arrive in a state with the property `P`. -/
def Through (tr : σ → ε → σ → Prop) (P : σ → Prop) : σ → ε → σ → Prop :=
  fun s e t => tr s e t ∧ P t

namespace Exec

variable {tr : σ → ε → σ → Prop} {s t u : σ}

/-- What the first state satisfies and every transition keeps, the last state satisfies. -/
theorem invariant {I : σ → Prop} {es : List ε} (hstep : ∀ s e t, I s → tr s e t → I t)
    (h : Exec tr s es t) (hs : I s) : I t := by
  induction h with
  | nil => exact hs
  | cons head _ ih => exact ih (hstep _ _ _ hs head)

theorem mono {tr' : σ → ε → σ → Prop} {es : List ε} (hle : ∀ s e t, tr s e t → tr' s e t)
    (h : Exec tr s es t) : Exec tr' s es t := by
  induction h with
  | nil => exact .nil _
  | cons head _ ih => exact .cons (hle _ _ _ head) ih

theorem forall_labels {P : ε → Prop} {es : List ε} (hlabel : ∀ s e t, tr s e t → P e)
    (h : Exec tr s es t) : ∀ e ∈ es, P e := by
  induction h with
  | nil => simp
  | cons head _ ih => exact List.forall_mem_cons.mpr ⟨hlabel _ _ _ head, ih⟩

/-- A run seen through a map of its states and labels. -/
theorem map {τ δ : Type*} {tr' : τ → δ → τ → Prop} {es : List ε} (f : σ → τ) (g : ε → δ)
    (hstep : ∀ s e t, e ∈ es → tr s e t → tr' (f s) (g e) (f t)) (h : Exec tr s es t) :
    Exec tr' (f s) (es.map g) (f t) := by
  induction h with
  | nil s => exact .nil _
  | cons head _ ih =>
      refine .cons (hstep _ _ _ List.mem_cons_self head) (ih ?_)
      intro s e t he
      exact hstep s e t (List.mem_cons_of_mem _ he)

theorem append {es es' : List ε} (h : Exec tr s es t) (h' : Exec tr t es' u) :
    Exec tr s (es ++ es') u := by
  induction h with
  | nil => exact h'
  | cons head _ ih => exact .cons head (ih h')

/-- A run is matched by one of another relation if each of its transitions is matched by a run,
from a state that the other relation can be in. -/
theorem simulation {τ δ : Type*} {tr' : τ → δ → τ → Prop} {J : τ → Prop} {es : List ε} (f : σ → τ)
    (hinv : ∀ s e t, J s → tr' s e t → J t)
    (hstep : ∀ s e t, J (f s) → tr s e t → ∃ ds, Exec tr' (f s) ds (f t)) (h : Exec tr s es t)
    (hs : J (f s)) : ∃ ds, Exec tr' (f s) ds (f t) := by
  induction h with
  | nil s => exact ⟨[], .nil _⟩
  | cons head _ ih =>
      obtain ⟨ds, hhead⟩ := hstep _ _ _ hs head
      obtain ⟨ds', htail⟩ := ih (hhead.invariant hinv hs)
      exact ⟨ds ++ ds', hhead.append htail⟩

/-- If before the goal some transition leaves less to be done, in an order without infinite
descent, a run reaches the goal. -/
theorem reaches {β : Type*} {less : β → β → Prop} (hwf : WellFounded less) {I goal : σ → Prop}
    (left : σ → β)
    (hstep : ∀ s, I s → ¬ goal s → ∃ e t, tr s e t ∧ I t ∧ less (left t) (left s)) (hs : I s) :
    ∃ es t, Exec tr s es t ∧ I t ∧ goal t := by
  induction hleft : left s using hwf.induction generalizing s with
  | h b ih =>
      by_cases hgoal : goal s
      · exact ⟨[], s, .nil s, hs, hgoal⟩
      · obtain ⟨e, next, hnext, hI, hless⟩ := hstep s hs hgoal
        obtain ⟨es, t, hrun, ht, hreached⟩ := ih (left next) (hleft ▸ hless) hI rfl
        exact ⟨e :: es, t, .cons hnext hrun, ht, hreached⟩

/-- A step function run over all the labels. -/
theorem of_foldlM {step : σ → ε → Option σ} {es : List ε} (h : es.foldlM step s = some t) :
    Exec (Step step) s es t := by
  induction es generalizing s with
  | nil =>
      obtain rfl : s = t := by simpa using h
      exact .nil s
  | cons e es ih =>
      rw [List.foldlM_cons] at h
      obtain ⟨next, hnext, h⟩ := Option.bind_eq_some_iff.mp h
      exact .cons hnext (ih h)

/-- A run of a step function, found by evaluating what matters of its last state. -/
theorem exists_of_foldlM {β : Type*} {step : σ → ε → Option σ} {es : List ε} {f : σ → β} {b : β}
    (h : (es.foldlM step s).map f = some b) : ∃ t, Exec (Step step) s es t ∧ f t = b := by
  obtain ⟨t, hfold, hb⟩ := Option.map_eq_some_iff.mp h
  exact ⟨t, of_foldlM hfold, hb⟩

/-- The same for a run all of whose steps satisfy a guard. -/
theorem exists_guarded_of_foldlM {β : Type*} {step : σ → ε → Option σ} {guard : σ → ε → Bool}
    {es : List ε} {f : σ → β} {b : β}
    (h : (es.foldlM (fun s e => if guard s e then step s e else none) s).map f = some b) :
    ∃ t, Exec (Guarded (Step step) fun s e => guard s e) s es t ∧ f t = b := by
  obtain ⟨t, hrun, hb⟩ := exists_of_foldlM h
  refine ⟨t, hrun.mono ?_, hb⟩
  intro s e t hstep
  simp only [Step] at hstep
  split at hstep
  · rename_i hguard
    exact ⟨hstep, hguard⟩
  · cases hstep

/-- A flag that a step never takes back is down after a run exactly when it was down before and no
step has raised it. -/
theorem flag_iff {step : σ → ε → Option σ} {I : σ → Prop} (flag : σ → Bool)
    (raises : σ → ε → Bool)
    (hstep : ∀ s e t, I s → step s e = some t → I t ∧ flag t = (flag s || raises s e))
    {es : List ε} (h : Exec (Step step) s es t) (hs : I s) :
    flag t = false ↔
      flag s = false ∧ Exec (Guarded (Step step) fun s e => raises s e = false) s es t := by
  induction h with
  | nil s => exact ⟨fun hflag => ⟨hflag, .nil s⟩, fun hrun => hrun.1⟩
  | cons head tail ih =>
      obtain ⟨hI, hflag⟩ := hstep _ _ _ hs head
      rw [ih hI, hflag, Bool.or_eq_false_iff]
      constructor
      · intro hdown
        exact ⟨hdown.1.1, .cons ⟨head, hdown.1.2⟩ hdown.2⟩
      · intro hdown
        obtain ⟨hs, hguarded⟩ := hdown
        cases hguarded with
        | cons head' tail' =>
            obtain rfl := Option.some.inj (head.symm.trans head'.1)
            exact ⟨⟨hs, head'.2⟩, tail'⟩

/-- If a guarded transition is one that arrives in `P`, and keeps what this needs, then a run goes
through `P` alone exactly when all its transitions are guarded. -/
theorem through_iff_guarded {J P : σ → Prop} {guard : σ → ε → Prop}
    (hstep : ∀ s e t, J s → tr s e t → (P t ↔ guard s e) ∧ (guard s e → J t))
    {es : List ε} (hs : J s) :
    Exec (Through tr P) s es t ↔ Exec (Guarded tr guard) s es t := by
  constructor
  · intro hrun
    induction hrun with
    | nil => exact .nil _
    | cons head _ ih =>
        have hguard := (hstep _ _ _ hs head.1).1.mp head.2
        exact .cons ⟨head.1, hguard⟩ (ih ((hstep _ _ _ hs head.1).2 hguard))
  · intro hrun
    induction hrun with
    | nil => exact .nil _
    | cons head _ ih =>
        obtain ⟨hP, hJ⟩ := hstep _ _ _ hs head.1
        exact .cons ⟨head.1, hP.mpr head.2⟩ (ih (hJ head.2))

end Exec

/-- `P` holds at every moment of the history `log`, that is of each of its prefixes. -/
def Always (P : List α → Prop) (log : List α) : Prop :=
  ∀ past, past <+: log → P past

namespace Always

variable {P : List α → Prop} {log : List α}

theorem now (h : Always P log) : P log := h log List.prefix_rfl

theorem nil (h : P []) : Always P [] := by
  intro past hp
  rwa [List.prefix_nil.mp hp]

theorem snoc {e : α} (h : Always P log) (he : P (log ++ [e])) : Always P (log ++ [e]) := by
  intro past hp
  rcases List.prefix_concat_iff.mp hp with rfl | hp
  · exact he
  · exact h past hp

end Always

/-- Each event of the history is as `ok` asks, given the events before it. -/
def Each (ok : List α → α → Prop) (log : List α) : Prop :=
  ∀ past e, past ++ [e] <+: log → ok past e

namespace Each

variable {ok : List α → α → Prop} {log : List α}

theorem nil : Each ok [] := by
  intro past e hp
  simp at hp

theorem snoc {e : α} (h : Each ok log) (he : ok log e) : Each ok (log ++ [e]) := by
  intro past e' hp
  rcases List.prefix_concat_iff.mp hp with heq | hp
  · obtain ⟨rfl, rfl⟩ := List.append_singleton_inj.mp heq
    exact he
  · exact h past e' hp

end Each

end Transition
