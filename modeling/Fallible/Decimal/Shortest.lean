/-!
# The fewest digits that read back

A floating-point number is written with the fewest decimal digits that are nearer to it than to any
other, and of those with the ones nearest to it. The digits are found in exact arithmetic: a finite
positive number is `m · 2 ^ q`, the numbers that round to it form an interval around it, and for one
digit, two digits and so on the two neighbours of the number among the decimals of that many digits
are tried.

## Main definitions

* `Shortest.digits`: the digits and the place of the point
* `Shortest.positional`, `Shortest.scientific`: the two ways to write them
-/

namespace Fallible.Shortest

/-- A fraction of natural numbers. -/
structure Ratio where
  num : Nat
  den : Nat

namespace Ratio

/-- Whether a fraction is less than another. -/
def lt (a b : Ratio) : Bool :=
  a.num * b.den < b.num * a.den

/-- The distance between two fractions. -/
def distance (a b : Ratio) : Ratio :=
  let x := a.num * b.den
  let y := b.num * a.den
  ⟨(x - y) + (y - x), a.den * b.den⟩

/-- The fraction `n · base ^ e`. -/
def scaled (n base : Nat) (e : Int) : Ratio :=
  if 0 ≤ e then ⟨n * base.pow e.natAbs, 1⟩ else ⟨n, base.pow e.natAbs⟩

end Ratio

/-- The numbers that round to a floating-point number. -/
structure Interval where
  value : Ratio
  low : Ratio
  high : Ratio
  /-- Whether the ends belong to it. -/
  closed : Bool

/-- Whether a fraction lies in the interval. -/
def Interval.contains (i : Interval) (x : Ratio) : Bool :=
  if i.closed then !x.lt i.low && !i.high.lt x else i.low.lt x && x.lt i.high

/-- The interval of the finite positive number with the given bits. A power of two lies nearer to
the number below it than to the one above. -/
def interval (bits : Nat) : Interval :=
  let field := bits / Nat.pow 2 52 % Nat.pow 2 11
  let low := bits % Nat.pow 2 52
  let m := if field = 0 then low else Nat.pow 2 52 + low
  let q : Int := (max 1 field : Nat) - 1075
  { value := .scaled m 2 q
    low :=
      if low = 0 && 1 < field then .scaled (4 * m - 1) 2 (q - 2)
      else .scaled (2 * m - 1) 2 (q - 1)
    high := .scaled (2 * m + 1) 2 (q - 1)
    closed := m % 2 = 0 }

/-- How many decimal digits a number has. -/
def width (n : Nat) : Nat :=
  (Nat.toDigits 10 n).length

/-- The power of ten just above a positive fraction. -/
def magnitude (x : Ratio) : Int :=
  let e : Int := (width x.num : Int) - width x.den
  if x.lt (.scaled 1 10 e) then e else e + 1

/-- Which of two equally near neighbours is taken. -/
inductive Tie where
  /-- The one with the even last digit. -/
  | even
  /-- The greater one. -/
  | up
  deriving DecidableEq

/-- Takes one of two equally near neighbours, given the lesser. -/
def Tie.choose : Tie → Nat → Nat
  | even, below => if below % 2 = 0 then below else below + 1
  | up, below => below + 1

/-- The better of the two neighbours of the value among the multiples of `10 ^ k`, if one lies in
the interval. -/
def neighbour (tie : Tie) (i : Interval) (k : Int) : Option Nat :=
  let step := Ratio.scaled 1 10 k
  let below := i.value.num * step.den / (i.value.den * step.num)
  let near := fun n => i.contains (.scaled n 10 k)
  let gap := fun n => (Ratio.scaled n 10 k).distance i.value
  match near below, near (below + 1) with
  | false, false => none
  | true, false => some below
  | false, true => some (below + 1)
  | true, true =>
    if (gap below).lt (gap (below + 1)) then some below
    else if (gap (below + 1)).lt (gap below) then some (below + 1)
    else some (tie.choose below)

/-- A decimal without zeros at its end. -/
def trim (n : Nat) (k : Int) : Nat × Int :=
  if h : n ≠ 0 ∧ n % 10 = 0 then trim (n / 10) (k + 1) else (n, k)
termination_by n
decreasing_by omega

/-- Searches for the fewest digits, from `count` on, for at most `fuel` counts. -/
def search (tie : Tie) (i : Interval) (top : Int) (count : Nat) : (fuel : Nat) → Nat × Int
  | 0 => (0, 0)
  | fuel + 1 =>
    match neighbour tie i (top - count) with
    | some n => trim n (top - count)
    | none => search tie i top (count + 1) fuel

/-- The digits of a finite positive number and the place of the last one: seventeen always
suffice. -/
def digits (tie : Tie) (x : Float) : Nat × Int :=
  let i := interval x.toBits.toNat
  search tie i (magnitude i.value) 1 17

/-- Digits written around a point, with at least one digit on either side. -/
def positional (n : Nat) (k : Int) : String :=
  let ds := Nat.toDigits 10 n
  let zeros := fun count => List.replicate count '0'
  let place : Int := ds.length + k
  String.ofList <|
    if 0 ≤ k then ds ++ zeros k.natAbs ++ ['.', '0']
    else if 0 < place then ds.take place.natAbs ++ '.' :: ds.drop place.natAbs
    else ['0', '.'] ++ zeros place.natAbs ++ ds

/-- Digits written as one digit before the point, the others after it, and a signed power of ten. -/
def scientific (n : Nat) (k : Int) : String :=
  let ds := Nat.toDigits 10 n
  let power : Int := ds.length + k - 1
  String.ofList (ds.take 1 ++ if ds.length = 1 then [] else '.' :: ds.drop 1) ++ "e" ++
    (if power < 0 then "-" else "+") ++ toString power.natAbs

/-- Writes a number by `write`, which takes the digits of its magnitude; zero, infinity and what is
no number have texts of their own. -/
def render (tie : Tie) (write : Nat → Int → String) (x : Float) : String :=
  if x.isNaN then "NaN"
  else
    let sign := if x.toBits.toNat / Nat.pow 2 63 = 1 then "-" else ""
    let size := x.abs
    sign ++
      if size.isInf then "inf"
      else if size == 0 then "0.0"
      else
        let (n, k) := digits tie size
        write n k

/-- Writes a number around a point, however long that is. Of two decimals that are equally near, the
greater in size is written. -/
def renderPlain : Float → String :=
  render .up positional

/-- Writes a number around a point if it is between a hundred-thousandth and ten to the sixteenth,
and else with a power of ten. Of two decimals that are equally near, the even one is written. -/
def renderShort : Float → String :=
  render .even fun n k =>
    let power := (width n : Int) + k - 1
    if -5 ≤ power && power < 16 then positional n k else scientific n k

end Fallible.Shortest
