/-!
# Decimal numbers

A decimal number as it is written: a sign, digits before and after a point, and a power of ten. Two
floating-point numbers are made of it: the nearest one, and the one that a single scaling of its
leading digits gives, which may be off by a last bit.
-/

namespace Fallible

/-- A decimal number as it is written. -/
structure Decimal where
  negative : Bool
  /-- The digits before the point. -/
  whole : List Char
  /-- The digits after the point. -/
  fraction : List Char
  /-- The power of ten that scales the number. -/
  exponent : Int
  deriving DecidableEq, Inhabited

namespace Decimal

/-- The value of a digit. -/
def digit (c : Char) : Nat :=
  c.toNat - '0'.toNat

/-- The number that digits name after `seen`. -/
def ofDigits (seen : Nat) (digits : List Char) : Nat :=
  digits.foldl (fun n c => n * 10 + digit c) seen

/-- A number with a sign. -/
def signed (negative : Bool) (x : Float) : Float :=
  if negative then -x else x

/-! ## The nearest number -/

/-- The floating-point number nearest to the decimal one; infinite beyond the greatest. -/
def nearest (d : Decimal) : Float :=
  let digits := ofDigits 0 (d.whole ++ d.fraction)
  let exponent := d.exponent - d.fraction.length
  let size := (toString digits).length + exponent
  signed d.negative <|
    if digits = 0 || size < -400 then 0
    else if size > 400 then 1 / 0
    else Float.ofScientific digits (decide (exponent < 0)) exponent.natAbs

/-! ## One scaling -/

/-- The greatest number of 64 bits. -/
def greatestWord : Nat := 18446744073709551615

/-- Appends digits to a number as long as it fits 64 bits, and counts those that are left. -/
def absorb : Nat → List Char → Nat × Nat
  | n, [] => (n, 0)
  | n, c :: rest =>
    if n * 10 + digit c ≤ greatestWord then absorb (n * 10 + digit c) rest
    else (n, rest.length + 1)

/-- A power of ten as a floating-point number. -/
def powerOfTen (n : Nat) : Float :=
  Float.ofScientific 1 false n

/-- A number scaled by a power of ten, which may take several divisions. Nothing is given for a
number out of range. -/
def scale (x : Float) (exponent : Int) : Option Float :=
  if exponent.natAbs ≤ 308 then
    if 0 ≤ exponent then
      let y := x * powerOfTen exponent.natAbs
      if y.isInf then none else some y
    else some (x / powerOfTen exponent.natAbs)
  else if x == 0 then some x
  else if 0 ≤ exponent then none
  else scale (x / powerOfTen 308) (exponent + 308)
termination_by exponent.natAbs

/-- The floating-point number that the leading digits scaled once give: as many of them as fit 64
bits. Nothing is given for a number out of range. -/
def scaled? (d : Decimal) : Option Float :=
  let (leading, left) := absorb 0 d.whole
  let (leading, lost) := absorb leading d.fraction
  let exponent := (left : Int) - (d.fraction.length - lost : Nat) + d.exponent
  signed d.negative <$>
    if d.exponent.natAbs > 2147483647 then
      if leading ≠ 0 && 0 < d.exponent then none else some 0
    else scale leading.toUInt64.toFloat exponent

end Decimal

end Fallible
