import Mathlib.Data.List.Induction

/-!
# Objects that complete once

An object is told events, answers at most one of them by running its callback, and posts its own
deletion after that; it keeps a record of what it does. Nothing here refers to a particular program.
-/

namespace OneShot

variable {σ ε α β : Type*}

/-- What an object does on completion. -/
inductive CompletionStep (α : Type*) where
  | ranCallback (outcome : α)
  | postedDeletion

/-- A kind of objects: what an event does to one, with what it passes to the callback; what one has
done on completion; and the part of the state that is its own. -/
structure Kind (σ ε α β : Type*) where
  deliver : σ → ε → σ × Option α
  completion : σ → List (CompletionStep α)
  own : σ → β

namespace Kind

variable (kind : Kind σ ε α β)

def run (s : σ) (es : List ε) : σ := es.foldl (fun s e => (kind.deliver s e).1) s

@[simp] theorem run_nil (s : σ) : kind.run s [] = s := rfl

namespace Lawful

variable {kind} {Waiting Finished : σ → Prop}

end Lawful

end Kind

end OneShot
