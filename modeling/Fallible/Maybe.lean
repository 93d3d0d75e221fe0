import Fallible.Digest

/-!
# Values that may be absent

`Maybe α` is a value or its absence. Nothing here is judged or captured: the functions it takes
answer with plain values, and whatever unwinds out of one unwinds out of the combinator.

A present value may itself be absent within, as in `Maybe.present (none : Option α)`, and is then
still present.
-/

namespace Fallible

/-- A value that may be absent. -/
inductive Maybe (α : Type) where
  | present (value : α)
  | absent
  deriving DecidableEq

namespace Maybe

variable {σ α β ε : Type}

instance : Inhabited (Maybe α) :=
  ⟨absent⟩

/-! ## Construction -/

/-- Present exactly when the option holds a value. -/
def ofOption : Option α → Maybe α
  | some a => present a
  | none => absent

/-- Present with what `supplier` gives if the condition holds; else `supplier` is not run. -/
def when (condition : Bool) (supplier : Run σ α) : Run σ (Maybe α) :=
  if condition then present <$> supplier else return absent

/-- Present with what `supplier` gives unless the condition holds. -/
def whenNot (condition : Bool) (supplier : Run σ α) : Run σ (Maybe α) :=
  when (!condition) supplier

/-! ## Looking inside -/

/-- Whether there is a value. -/
def isPresent : Maybe α → Bool
  | present _ => true
  | absent => false

/-- Whether there is no value. -/
def isAbsent : Maybe α → Bool
  | present _ => false
  | absent => true

/-- The value, or a fresh cause that says there is none. -/
def get : Maybe α → Run σ (Except Cause α)
  | present a => return .ok a
  | absent => return .error (← Cause.noSuchElement "None.get()")

/-- Another handle on the same value. -/
def handle : Maybe α → Maybe α
  | present a => present a
  | absent => absent

/-- The value as an option. -/
def toOption : Maybe α → Option α
  | present a => some a
  | absent => none

/-- The values inside: one or none. -/
def toList (m : Maybe α) : List α :=
  m.handle.toOption.toList

/-- The value, or `other`. -/
def getOrElse : Maybe α → α → α
  | present a, _ => a
  | absent, other => other

/-- The value, or what `supplier` gives. -/
def getOrElseGet : Maybe α → Run σ α → Run σ α
  | present a, _ => return a
  | absent, supplier => supplier

/-- The value, or an error that `error` gives. -/
def getOrElseThrow : Maybe α → Run σ ε → Run σ (Except ε α)
  | present a, _ => return .ok a
  | absent, error => .error <$> error

/-- The value on the right, or what `left` gives on the left. -/
def toSum : Maybe α → Run σ β → Run σ (β ⊕ α)
  | present a, _ => return .inr a
  | absent, left => .inl <$> left

/-- What the function of the branch that applies gives. -/
def fold : Maybe α → (ifAbsent : Run σ β) → (ifPresent : α → Run σ β) → Run σ β
  | present a, _, ifPresent => ifPresent a
  | absent, ifAbsent, _ => ifAbsent

/-! ## Combinators -/

/-- Keeps the value if the predicate holds. -/
def filter (m : Maybe α) (predicate : α → Run σ Bool) : Run σ (Maybe α) :=
  match m with
  | present a => do if ← predicate a then return present a else return absent
  | absent => return absent

/-- Applies a function to the value. -/
def map (m : Maybe α) (mapper : α → Run σ β) : Run σ (Maybe β) :=
  match m with
  | present a => present <$> mapper a
  | absent => return absent

/-- Goes on with the value to what `mapper` gives. -/
def flatMap (m : Maybe α) (mapper : α → Run σ (Maybe β)) : Run σ (Maybe β) :=
  match m with
  | present a => mapper a
  | absent => return absent

/-- Goes on to what `supplier` gives where there is no value. -/
def orElse (m : Maybe α) (supplier : Run σ (Maybe α)) : Run σ (Maybe α) :=
  match m with
  | present a => return present a
  | absent => supplier

/-- Goes on with whichever branch applies. -/
def transform (m : Maybe α) (ifAbsent : Run σ (Maybe β)) (ifPresent : α → Run σ (Maybe β)) :
    Run σ (Maybe β) :=
  match m with
  | present a => ifPresent a
  | absent => ifAbsent

/-- Runs an action where there is no value, and passes the receiver on. -/
def onAbsent (m : Maybe α) (action : Run σ Unit) : Run σ (Maybe α) := do
  if m.isAbsent then action
  return m

/-- Runs an action on the value, and passes the receiver on. -/
def onPresent (m : Maybe α) (action : α → Run σ Unit) : Run σ (Maybe α) := do
  if let present a := m then action a
  return m

/-! ## Equality, digests and text -/

/-- Values are compared inside, and absence equals absence only. -/
instance [BEq α] : BEq (Maybe α) where
  beq
    | present a, present b => a == b
    | absent, absent => true
    | _, _ => false

instance [Digestible α] : Digestible (Maybe α) where
  digest
    | present a => Digest.salt ++ digest a
    | absent => Digest.absent

instance [Displayed α] : Displayed (Maybe α) where
  display
    | present a => "Some(" ++ display a ++ ")"
    | absent => "None"

instance [Shown α] : Shown (Maybe α) where
  term
    | present a => .tuple "Some" [Shown.term a]
    | absent => .word "None"

end Maybe

end Fallible
