import Mathlib.Data.List.Basic

/-!
# Posted tasks

A state with the tasks that are posted to it, which are run one by one in their order. What all of
them will make of the state is known as soon as they are posted.
-/

/-- A state and the tasks that wait for it, the oldest first. -/
structure Posted (σ τ : Type*) where
  state : σ
  tasks : List τ

namespace Posted

variable {σ τ : Type*} (exec : σ → τ → σ) (p : Posted σ τ)

def post (task : τ) (p : Posted σ τ) : Posted σ τ := { p with tasks := p.tasks ++ [task] }

/-- The oldest task is run, if there is one. -/
def runTask : Posted σ τ :=
  match p.tasks with
  | [] => p
  | task :: rest => ⟨exec p.state task, rest⟩

/-- The state after all posted tasks have run. -/
def runAll : σ := p.tasks.foldl exec p.state

@[simp] theorem post_state (task : τ) : (p.post task).state = p.state := rfl

@[simp] theorem runAll_post (task : τ) : (p.post task).runAll exec = exec (p.runAll exec) task := by
  simp [post, runAll]

@[simp] theorem runAll_runTask : (p.runTask exec).runAll exec = p.runAll exec := by
  rw [runTask, runAll]
  split
  · rename_i hnone
    rw [runAll, hnone]
  · rename_i task rest hsome
    rw [runAll, hsome]
    rfl

variable {exec p} in
/-- Running the tasks keeps what each of them keeps. -/
theorem runAll_keeps {α : Type*} {f : σ → α} (h : ∀ s task, f (exec s task) = f s) :
    f (p.runAll exec) = f p.state := by
  obtain ⟨state, tasks⟩ := p
  induction tasks generalizing state with
  | nil => rfl
  | cons task tasks ih => exact (ih (exec state task)).trans (h state task)

variable {exec p} in
theorem runTask_keeps {α : Type*} {f : σ → α} (h : ∀ s task, f (exec s task) = f s) :
    f (p.runTask exec).state = f p.state := by
  rw [runTask]
  split
  · rfl
  · exact h _ _

end Posted
