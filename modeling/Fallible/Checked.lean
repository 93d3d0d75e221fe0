import Fallible.Run

/-!
# Checked functions

Caller code that may fail takes one argument and answers with a value or a cause. Three shapes of it
compose: functions, predicates, which stop as soon as the answer is known, and consumers, which stop
at the first cause.
-/

namespace Fallible

/-- A function that answers with a value or a cause. -/
abbrev Checked (σ α β : Type) :=
  α → Run σ (Except Cause β)

namespace Checked

variable {σ α β γ : Type}

/-- Feeds the value of `f` to `after`. -/
def andThen (f : Checked σ α β) (after : Checked σ β γ) : Checked σ α γ := fun a => do
  match ← f a with
  | .ok b => after b
  | .error c => return .error c

/-- Feeds the value of `before` to `f`. -/
def compose (f : Checked σ β γ) (before : Checked σ α β) : Checked σ α γ := fun a => do
  match ← before a with
  | .ok b => f b
  | .error c => return .error c

end Checked

/-- A predicate that answers with a truth value or a cause. -/
abbrev Predicate (σ α : Type) :=
  Checked σ α Bool

namespace Predicate

variable {σ α : Type}

/-- Holds where `p` does not. -/
def negate (p : Predicate σ α) : Predicate σ α := fun a => do
  match ← p a with
  | .ok b => return .ok !b
  | .error c => return .error c

/-- Holds where `p` does not; `negate` as a function on predicates. -/
def not (p : Predicate σ α) : Predicate σ α :=
  p.negate

/-- Holds where both do; `q` is not asked where `p` does not hold. -/
def and (p q : Predicate σ α) : Predicate σ α := fun a => do
  match ← p a with
  | .ok true => q a
  | .ok false => return .ok false
  | .error c => return .error c

/-- Holds where either does; `q` is not asked where `p` holds. -/
def or (p q : Predicate σ α) : Predicate σ α := fun a => do
  match ← p a with
  | .ok true => return .ok true
  | .ok false => q a
  | .error c => return .error c

end Predicate

/-- A side effect that may answer with a cause. -/
abbrev Consumer (σ α : Type) :=
  Checked σ α Unit

namespace Consumer

variable {σ α : Type}

/-- Runs `first` and then, unless it answered with a cause, `after`. -/
def followedBy (first after : Consumer σ α) : Consumer σ α := fun a => do
  match ← first a with
  | .ok () => after a
  | .error c => return .error c

end Consumer

end Fallible
