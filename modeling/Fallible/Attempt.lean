import Fallible.Checked
import Fallible.Maybe

/-!
# Attempts

An attempt is the outcome of a computation that may have failed: a success with its value, or a
failure with a captured cause. The combinators run caller code, and a cause that the code hands back
is captured: non-fatal, it becomes the failure; fatal, it unwinds.

A branch with nothing to do passes its receiver on unchanged, so a failure on its way through `map`,
`filter` or `recover` keeps the very same cause, and no caller code runs.

## Main definitions

* `Attempt.of`, `Attempt.fail`, `Attempt.settle`: where causes are captured
* `Attempt.map`, `Attempt.flatMap`, `Attempt.filter`: going on from a success
* `Attempt.mapFailure`, `Attempt.recover`, `Attempt.recoverWith`, `Attempt.orElse`: going on from a
  failure
* `Attempt.get`, `Attempt.toExcept`: the value, with the cause wrapped or as it is
-/

namespace Fallible

/-- The outcome of a computation that may have failed. -/
inductive Attempt (α : Type) where
  | success (value : α)
  | failure (cause : Captured)

namespace Attempt

variable {σ α β ε : Type}

/-! ## Construction -/

/-- The failure of a cause; a fatal cause unwinds instead. -/
def fail (c : Cause) : Run σ (Attempt α) :=
  failure <$> Captured.capture c

/-- The attempt that an answer amounts to, its cause captured. -/
def ofExcept : Except Cause α → Run σ (Attempt α)
  | .ok a => return success a
  | .error c => fail c

/-- Runs a computation and captures its answer. -/
def of (computation : Run σ (Except Cause α)) : Run σ (Attempt α) := do
  ofExcept (← computation)

/-- The attempt that a result amounts to, its error first turned into a cause. -/
def ofResult (toCause : ε → Run σ Cause) : Except ε α → Run σ (Attempt α)
  | .ok a => ofExcept (.ok a)
  | .error e => do ofExcept (.error (← toCause e))

/-- Gives back an attempt that caller code answered with, as it is, and captures a cause that it
answered with instead. -/
def settle : Except Cause (Attempt α) → Run σ (Attempt α)
  | .ok t => return t
  | .error c => fail c

/-! ## Looking inside -/

/-- Whether there is a value. -/
def isSuccess : Attempt α → Bool
  | success _ => true
  | failure _ => false

/-- Whether there is a cause. -/
def isFailure : Attempt α → Bool
  | success _ => false
  | failure _ => true

/-- The cause under which a captured cause surfaces: a fresh one of kind `nonFatal` around it. -/
def surface (c : Captured) : Run σ Cause :=
  Cause.wrap .nonFatal c.cause

/-- The value, or a fresh cause around the one inside. -/
def get : Attempt α → Run σ (Except Cause α)
  | success a => return .ok a
  | failure c => return .error (← surface c)

/-- The value, or the cause inside as it is. -/
def toExcept : Attempt α → Except Cause α
  | success a => .ok a
  | failure c => .error c.cause

/-- The cause of a failure, or a fresh cause that says there is none. -/
def getCause : Attempt α → Run σ (Except Cause Cause)
  | success _ => return .error (← Cause.unsupported "Success.get_cause()")
  | failure c => return .ok c.cause

/-- Another handle on the same outcome; a cause stays the same cause. -/
def handle : Attempt α → Attempt α
  | success a => success a
  | failure c => failure c

/-- The value as an option. -/
def toOption : Attempt α → Option α
  | success a => some a
  | failure _ => none

/-- The value, present or absent. -/
def toMaybe : Attempt α → Maybe α
  | success a => .present a
  | failure _ => .absent

/-- The values inside: one or none. -/
def toList (t : Attempt α) : List α :=
  t.handle.toOption.toList

/-- The value of a success that holds one. -/
def join (t : Attempt (Option α)) : Option α :=
  t.toOption.join

/-- The value, or `other`. -/
def getOrElse : Attempt α → α → α
  | success a, _ => a
  | failure _, other => other

/-- The value, or what `supplier` gives. -/
def getOrElseGet : Attempt α → Run σ α → Run σ α
  | success a, _ => return a
  | failure _, supplier => supplier

/-- The value, or the error that `toError` makes of the cause. -/
def getOrElseThrow : Attempt α → (Cause → Run σ ε) → Run σ (Except ε α)
  | success a, _ => return .ok a
  | failure c, toError => .error <$> toError c.cause

/-- The value on the right, or what `left` makes of the cause on the left. -/
def toSum : Attempt α → (Cause → Run σ β) → Run σ (β ⊕ α)
  | success a, _ => return .inr a
  | failure c, left => .inl <$> left c.cause

/-- What the function of the branch that applies gives. Neither is captured. -/
def fold : Attempt α → (onFailure : Cause → Run σ β) → (onSuccess : α → Run σ β) → Run σ β
  | success a, _, onSuccess => onSuccess a
  | failure c, onFailure, _ => onFailure c.cause

/-! ## Going on from a success -/

/-- Applies a checked function to the value. -/
def map (t : Attempt α) (mapper : Checked σ α β) : Run σ (Attempt β) :=
  match t with
  | success a => of (mapper a)
  | failure c => return failure c

/-- Goes on with the value to another attempt. -/
def flatMap (t : Attempt α) (mapper : Checked σ α (Attempt β)) : Run σ (Attempt β) :=
  match t with
  | success a => do settle (← mapper a)
  | failure c => return failure c

/-- Keeps a success if the predicate holds, and else fails with the cause that `error` gives. -/
def filterOr (t : Attempt α) (predicate : Predicate σ α) (error : α → Run σ Cause) :
    Run σ (Attempt α) :=
  match t with
  | success a => do
    match ← predicate a with
    | .ok true => return success a
    | .ok false => fail (← error a)
    | .error c => fail c
  | failure c => return failure c

/-- The cause of a value for which a predicate does not hold. -/
def unsatisfied [Shown α] (a : α) : Run σ Cause :=
  Cause.raise .predicateNotSatisfied
    (some ("Predicate does not hold for " ++ (Shown.term a).line))

/-- Keeps a success if the predicate holds, and else fails with a fresh cause that shows the
value. -/
def filter [Shown α] (t : Attempt α) (predicate : Predicate σ α) : Run σ (Attempt α) :=
  t.filterOr predicate unsatisfied

/-! ## Going on from a failure -/

/-- Replaces the cause of a failure by the one that `mapper` answers with, in either way. -/
def mapFailure (t : Attempt α) (mapper : Checked σ Cause Cause) : Run σ (Attempt α) :=
  match t with
  | success a => return success a
  | failure c => do
    match ← mapper c.cause with
    | .ok mapped => fail mapped
    | .error mapped => fail mapped

/-- Makes a value of a cause of the given kind. -/
def recover (t : Attempt α) (kind : Kind) (recovery : Checked σ Cause α) : Run σ (Attempt α) :=
  match t with
  | success a => return success a
  | failure c => if c.cause.isA kind then of (recovery c.cause) else return failure c

/-- Goes on from a cause of the given kind to another attempt. -/
def recoverWith (t : Attempt α) (kind : Kind) (recovery : Checked σ Cause (Attempt α)) :
    Run σ (Attempt α) :=
  match t with
  | success a => return success a
  | failure c =>
    if c.cause.isA kind then do settle (← recovery c.cause) else return failure c

/-- Goes on from a failure to another attempt. -/
def orElse (t : Attempt α) (supplier : Run σ (Except Cause (Attempt α))) : Run σ (Attempt α) :=
  match t with
  | success a => return success a
  | failure _ => do settle (← supplier)

/-! ## Going on from either -/

/-- Goes on with whichever branch applies. -/
def transform (t : Attempt α) (ifFailure : Checked σ Cause (Attempt β))
    (ifSuccess : Checked σ α (Attempt β)) : Run σ (Attempt β) := do
  settle (← match t with
    | success a => ifSuccess a
    | failure c => ifFailure c.cause)

/-- Swaps the branches: the cause becomes the value. -/
def failed : Attempt α → Run σ (Attempt Cause)
  | success _ => do fail (← Cause.unsupported "Success.failed()")
  | failure c => return success c.cause

/-! ## Observing

A cause that a consumer answers with is handed back as it is, and is neither judged nor captured. -/

/-- Runs a consumer on the value. -/
def forEach : Attempt α → Consumer σ α → Run σ (Except Cause Unit)
  | success a, consumer => consumer a
  | failure _, _ => return .ok ()

/-- Runs a consumer on the value, and passes the receiver on. -/
def onSuccess (t : Attempt α) (consumer : Consumer σ α) : Run σ (Except Cause (Attempt α)) :=
  match t with
  | success a => do return (← consumer a).map fun () => t
  | failure _ => return .ok t

/-- Runs a consumer on the cause, and passes the receiver on. -/
def onFailure (t : Attempt α) (consumer : Consumer σ Cause) : Run σ (Except Cause (Attempt α)) :=
  match t with
  | success _ => return .ok t
  | failure c => do return (← consumer c.cause).map fun () => t

/-! ## Equality, digests and text -/

/-- Values are compared inside and causes by identity; a success never equals a failure. -/
instance [BEq α] : BEq (Attempt α) where
  beq
    | success a, success b => a == b
    | failure c, failure d => c == d
    | _, _ => false

instance [Digestible α] : Digestible (Attempt α) where
  digest
    | success a => Digest.salt ++ digest a
    | failure c => digest c

instance [Displayed α] : Displayed (Attempt α) where
  display
    | success a => "Success(" ++ display a ++ ")"
    | failure c => "Failure(" ++ display c ++ ")"

instance [Shown α] : Shown (Attempt α) where
  term
    | success a => .tuple "Success" [Shown.term a]
    | failure c => .tuple "Failure" [Shown.term c]

end Attempt

/-- Turns the answer of a checked function into an attempt. -/
def Checked.lift {σ α β : Type} (f : Checked σ α β) (a : α) : Run σ (Attempt β) :=
  Attempt.of (f a)

/-- A success with the value, or a failure of the cause that `ifAbsent` gives. -/
def Maybe.toAttempt {σ α : Type} (m : Maybe α) (ifAbsent : Run σ Cause) : Run σ (Attempt α) :=
  match m with
  | .present a => return .success a
  | .absent => do Attempt.fail (← ifAbsent)

end Fallible
