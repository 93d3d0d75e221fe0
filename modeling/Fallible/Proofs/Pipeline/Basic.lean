import Fallible.Attempt

/-!
# Pipelines of stages

A stage is a method of an attempt with all its arguments, and a pipeline is a list of stages, each
called on what the one before came to. Most stages come to an attempt whatever happens in them. The
observers may answer with a cause instead, and then the stages after them are not called.

## Main definitions

* `Stage`, `Stage.run`: the stages, and calling them on an attempt
* `Pipeline`, `Pipeline.run`: stages one after the other
-/

namespace Fallible

/-- A method of an attempt with an `α`, with all its arguments; it comes to one with a `β`. -/
inductive Stage (σ : Type) : Type → Type → Type 1 where
  | handle : Stage σ α α
  | map (f : Checked σ α β) : Stage σ α β
  | flatMap (f : Checked σ α (Attempt β)) : Stage σ α β
  | filter (shown : Shown α) (p : Predicate σ α) : Stage σ α α
  | filterOr (p : Predicate σ α) (error : α → Run σ Cause) : Stage σ α α
  | mapFailure (f : Checked σ Cause Cause) : Stage σ α α
  | recover (kind : Kind) (f : Checked σ Cause α) : Stage σ α α
  | recoverWith (kind : Kind) (f : Checked σ Cause (Attempt α)) : Stage σ α α
  | orElse (supplier : Run σ (Except Cause (Attempt α))) : Stage σ α α
  | transform (f : Checked σ Cause (Attempt β)) (g : Checked σ α (Attempt β)) : Stage σ α β
  | failed : Stage σ α Cause
  | onSuccess (consumer : Consumer σ α) : Stage σ α α
  | onFailure (consumer : Consumer σ Cause) : Stage σ α α

/-- Stages, each called on what the one before came to. -/
inductive Pipeline (σ : Type) : Type → Type → Type 1 where
  | done : Pipeline σ α α
  | andThen (first : Stage σ α β) (rest : Pipeline σ β γ) : Pipeline σ α γ

variable {σ α β : Type}

namespace Stage

/-- Calls a stage on an attempt. -/
def run : Stage σ α β → Attempt α → Run σ (Except Cause (Attempt β))
  | handle, t => return .ok t.handle
  | map f, t => .ok <$> t.map f
  | flatMap f, t => .ok <$> t.flatMap f
  | filter _ p, t => .ok <$> t.filter p
  | filterOr p error, t => .ok <$> t.filterOr p error
  | mapFailure f, t => .ok <$> t.mapFailure f
  | recover kind f, t => .ok <$> t.recover kind f
  | recoverWith kind f, t => .ok <$> t.recoverWith kind f
  | orElse supplier, t => .ok <$> t.orElse supplier
  | transform f g, t => .ok <$> t.transform f g
  | failed, t => .ok <$> t.failed
  | onSuccess consumer, t => t.onSuccess consumer
  | onFailure consumer, t => t.onFailure consumer

end Stage

namespace Pipeline

/-- Calls the stages one after the other, up to an observer that answers with a cause. -/
def run : {α β : Type} → Pipeline σ α β → Attempt α → Run σ (Except Cause (Attempt β))
  | _, _, done, t => return .ok t
  | _, _, andThen first rest, t => do
    match ← first.run t with
    | .ok u => rest.run u
    | .error c => return .error c

end Pipeline

end Fallible
