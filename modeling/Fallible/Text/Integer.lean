/-!
# Reading integers

An integer is read from a decimal text with an optional sign, within bounds that are given. A text
that names none fails in one of four ways, found from the left: a digit is looked at before the
bound.
-/

namespace Fallible

/-- Why a text names no integer within the bounds. -/
inductive IntegerFault where
  | empty
  | invalidDigit
  | tooLarge
  | tooSmall
  deriving DecidableEq, Repr

namespace IntegerFault

/-- What the fault says. -/
def display : IntegerFault → String
  | empty => "cannot parse integer from empty string"
  | invalidDigit => "invalid digit found in string"
  | tooLarge => "number too large to fit in target type"
  | tooSmall => "number too small to fit in target type"

/-- The fault's name. -/
def name : IntegerFault → String
  | empty => "Empty"
  | invalidDigit => "InvalidDigit"
  | tooLarge => "PosOverflow"
  | tooSmall => "NegOverflow"

end IntegerFault

namespace Integer

/-- The least 64-bit integer. -/
def least : Int := -9223372036854775808

/-- The greatest 64-bit integer. -/
def greatest : Int := 9223372036854775807

/-- The number that digits name after `seen`, if it never exceeds `bound`; `beyond` if it does. -/
def magnitude (bound : Nat) (beyond : IntegerFault) : Nat → List Char → Except IntegerFault Nat
  | seen, [] => .ok seen
  | seen, c :: rest =>
    if c.isDigit then
      let next := seen * 10 + (c.toNat - '0'.toNat)
      if next ≤ bound then magnitude bound beyond next rest else .error beyond
    else .error .invalidDigit

/-- Reads a 64-bit integer: a sign, which may be missing, and at least one digit. -/
def ofText (text : String) : Except IntegerFault Int :=
  match text.toList with
  | [] => .error .empty
  | ['+'] | ['-'] => .error .invalidDigit
  | '-' :: digits => (magnitude least.natAbs .tooSmall 0 digits).map fun n => -(n : Int)
  | '+' :: digits => (magnitude greatest.natAbs .tooLarge 0 digits).map fun n => (n : Int)
  | digits => (magnitude greatest.natAbs .tooLarge 0 digits).map fun n => (n : Int)

end Integer

end Fallible
