import Fallible.Json.Basic
import Fallible.Json.Symbol

/-!
# Reading JSON

The tree of a sequence of symbols, and whether that is a whole document. Where it is not, the tree
holds what comes before the first fault, in order.

## Main definitions

* `Json.Literal`: strings and numbers
* `Json.readValue`: the first value and what follows it
* `Json.read`: all of it
-/

namespace Fallible.Json

/-- Blanks between the parts of a document. -/
def isBlank (c : Char) : Bool :=
  c == ' ' || c == '\n' || c == '\t' || c == '\r'

/-- What follows the blanks at the start. -/
def skipBlanks (cs : List Symbol) : List Symbol :=
  cs.dropWhile (·.any isBlank)

namespace Literal

/-! ## Strings -/

/-- A piece of a string: a character, a unit of sixteen bits that an escape names, or a byte that
spells no character. -/
inductive Piece where
  | char (c : Char)
  | unit (n : Nat)
  | stray

/-- The value of a hexadecimal digit. -/
def hexDigit? (c : Char) : Option Nat :=
  if c.isDigit then some (c.toNat - '0'.toNat)
  else if 'a' ≤ c && c ≤ 'f' then some (c.toNat - 'a'.toNat + 10)
  else if 'A' ≤ c && c ≤ 'F' then some (c.toNat - 'A'.toNat + 10)
  else none

/-- The number that hexadecimal digits name. -/
def hex? (cs : List Char) : Option Nat :=
  cs.foldlM (fun n c => (n * 16 + ·) <$> hexDigit? c) 0

/-- The character that a letter after a backslash stands for. -/
def escaped? : Char → Option Char
  | '"' => some '"'
  | '\\' => some '\\'
  | '/' => some '/'
  | 'b' => some '\x08'
  | 'f' => some '\x0c'
  | 'n' => some '\n'
  | 'r' => some '\r'
  | 't' => some '\t'
  | _ => none

/-- The pieces of a string after its opening quote, and what follows its closing quote. -/
def pieces? : List Symbol → Option (List Piece × List Symbol)
  | [] => none
  | some '"' :: rest => some ([], rest)
  | some '\\' :: some 'u' :: some a :: some b :: some c :: some d :: rest => do
    let n ← hex? [a, b, c, d]
    let (ps, rest) ← pieces? rest
    return (.unit n :: ps, rest)
  | some '\\' :: some c :: rest => do
    let c ← escaped? c
    let (ps, rest) ← pieces? rest
    return (.char c :: ps, rest)
  | some c :: rest => do
    guard (0x20 ≤ c.toNat && c != '\\')
    let (ps, rest) ← pieces? rest
    return (.char c :: ps, rest)
  | none :: rest => do
    let (ps, rest) ← pieces? rest
    return (.stray :: ps, rest)

/-- Whether a unit is the first half of a surrogate pair. -/
def isHigh (n : Nat) : Bool :=
  0xd800 ≤ n && n < 0xdc00

/-- Whether a unit is the second half of a surrogate pair. -/
def isLow (n : Nat) : Bool :=
  0xdc00 ≤ n && n < 0xe000

/-- The text that pieces name: two halves in a row name one character, and a lone half none. -/
def assemble : List Piece → Option (List Char)
  | [] => some []
  | .stray :: _ => none
  | .char c :: ps => (c :: ·) <$> assemble ps
  | .unit n :: ps =>
    if isHigh n then
      match ps with
      | .unit m :: ps =>
        if isLow m then
          (Char.ofNat (0x10000 + (n - 0xd800) * 0x400 + (m - 0xdc00)) :: ·) <$> assemble ps
        else none
      | _ => none
    else if isLow n then none
    else (Char.ofNat n :: ·) <$> assemble ps

/-- Reads a string after its opening quote. -/
def string? (cs : List Symbol) : Option (Option String × List Symbol) := do
  let (ps, rest) ← pieces? cs
  return (String.ofList <$> assemble ps, rest)

/-! ## Numbers -/

/-- Digits, and what follows them. -/
def spanDigits : List Symbol → List Char × List Symbol
  | some c :: rest =>
    if c.isDigit then
      let (ds, rest) := spanDigits rest
      (c :: ds, rest)
    else ([], some c :: rest)
  | rest => ([], rest)

/-- Digits, of which there must be one, and what follows them. -/
def digits? (cs : List Symbol) : Option (List Char × List Symbol) :=
  match spanDigits cs with
  | ([], _) => none
  | found => some found

/-- The digits before the point: a zero alone, or digits that start with another. -/
def whole? : List Symbol → Option (List Char × List Symbol)
  | some '0' :: rest => if (spanDigits rest).1.isEmpty then some (['0'], rest) else none
  | cs => digits? cs

/-- The digits after the point, if there is one. -/
def fraction? : List Symbol → Option (Option (List Char) × List Symbol)
  | some '.' :: rest => do
    let (ds, rest) ← digits? rest
    return (some ds, rest)
  | cs => some (none, cs)

/-- The power of ten, if there is one. -/
def exponent? : List Symbol → Option (Option Int × List Symbol)
  | c :: rest =>
    if c == some 'e' || c == some 'E' then do
      let (negative, rest) := match rest with
        | some '-' :: rest => (true, rest)
        | some '+' :: rest => (false, rest)
        | rest => (false, rest)
      let (ds, rest) ← digits? rest
      let n : Int := Decimal.ofDigits 0 ds
      return (some (if negative then -n else n), rest)
    else some (none, c :: rest)
  | [] => some (none, [])

/-- The number of digits without point and power: an integer if it fits 64 bits. A zero with a sign
is no integer. -/
def ofWhole (negative : Bool) (ds : List Char) : Json :=
  let n := Decimal.ofDigits 0 ds
  if if negative then n ≠ 0 && n ≤ 9223372036854775808 else n < 18446744073709551616 then
    .integer (if negative then -(n : Int) else n)
  else .decimal ⟨negative, ds, [], 0⟩

/-- Reads a number. -/
def number? (cs : List Symbol) : Option (Json × List Symbol) := do
  let (negative, cs) := match cs with
    | some '-' :: rest => (true, rest)
    | cs => (false, cs)
  let (whole, cs) ← whole? cs
  let (fraction, cs) ← fraction? cs
  let (exponent, cs) ← exponent? cs
  match fraction, exponent with
  | none, none => return (ofWhole negative whole, cs)
  | _, _ => return (.decimal ⟨negative, whole, fraction.getD [], exponent.getD 0⟩, cs)

end Literal

/-! ## Values -/

mutual

/-- The first value, and what follows it unless something is wrong inside. Groups may be nested
`fuel` deep and as long. -/
def readValue : (fuel : Nat) → List Symbol → Json × Option (List Symbol)
  | 0, _ => (.cut, none)
  | fuel + 1, cs =>
    match skipBlanks cs with
    | some 'n' :: some 'u' :: some 'l' :: some 'l' :: rest => (.null, some rest)
    | some 't' :: some 'r' :: some 'u' :: some 'e' :: rest => (.bool true, some rest)
    | some 'f' :: some 'a' :: some 'l' :: some 's' :: some 'e' :: rest => (.bool false, some rest)
    | some '"' :: rest =>
      match Literal.string? rest with
      | some (s, rest) => (.string s, some rest)
      | none => (.cut, none)
    | some '[' :: rest =>
      match skipBlanks rest with
      | some ']' :: rest => (.array [], some rest)
      | rest =>
        let (items, rest) := readItems fuel rest
        (.array items, rest)
    | some '{' :: rest =>
      match skipBlanks rest with
      | some '}' :: rest => (.object [], some rest)
      | rest =>
        let (members, rest) := readMembers fuel rest
        (.object members, rest)
    | cs =>
      match Literal.number? cs with
      | some (n, rest) => (n, some rest)
      | none => (.cut, none)

/-- The items of an array, from the next one to the closing bracket. -/
def readItems : (fuel : Nat) → List Symbol → List Json × Option (List Symbol)
  | 0, _ => ([.cut], none)
  | fuel + 1, cs =>
    match readValue fuel cs with
    | (item, none) => ([item, .cut], none)
    | (item, some rest) =>
      match skipBlanks rest with
      | some ']' :: rest => ([item], some rest)
      | some ',' :: rest =>
        let (items, rest) := readItems fuel rest
        (item :: items, rest)
      | _ => ([item, .cut], none)

/-- The members of an object, from the next one to the closing brace. -/
def readMembers : (fuel : Nat) → List Symbol →
    List (Option String × Json) × Option (List Symbol)
  | 0, _ => ([(none, .cut)], none)
  | fuel + 1, cs =>
    match skipBlanks cs with
    | some '"' :: rest =>
      match Literal.string? rest with
      | none => ([(none, .cut)], none)
      | some (key, rest) =>
        match skipBlanks rest with
        | some ':' :: rest =>
          match readValue fuel rest with
          | (value, none) => ([(key, value), (none, .cut)], none)
          | (value, some rest) =>
            match skipBlanks rest with
            | some '}' :: rest => ([(key, value)], some rest)
            | some ',' :: rest =>
              let (members, rest) := readMembers fuel rest
              ((key, value) :: members, rest)
            | _ => ([(key, value), (none, .cut)], none)
        | _ => ([(key, .cut)], none)
    | _ => ([(none, .cut)], none)

end

/-! ## All of it -/

/-- What was read. -/
structure Reading where
  tree : Json
  /-- Whether that is a whole document, with nothing after it. -/
  isWhole : Bool

/-- Reads all symbols. -/
def read (cs : List Symbol) : Reading :=
  match readValue (2 * cs.length + 1) cs with
  | (tree, none) => ⟨tree, false⟩
  | (tree, some rest) => ⟨tree, (skipBlanks rest).isEmpty⟩

end Fallible.Json
