import Fallible.Decimal.Basic
import Fallible.Toml.Basic

/-!
# TOML scalars

Strings in their four forms, truth values, integers in four bases, floats, dates and times. A reader
takes the characters of a text and gives what it read with the characters that follow, or nothing.

## Main definitions

* `Toml.string?`: a string after its first quote
* `Toml.word?`: a scalar that is written without quotes
-/

namespace Fallible.Toml

/-! ## Characters -/

/-- Blanks within a line. -/
def isBlank (c : Char) : Bool :=
  c == ' ' || c == '\t'

/-- Characters that may stand in a comment or a string on one line: all but controls. -/
def isTextual (c : Char) : Bool :=
  c == '\t' || (0x20 ≤ c.toNat && c.toNat != 0x7f)

/-- A hexadecimal digit in either case. -/
def isHexDigit (c : Char) : Bool :=
  c.isDigit || ('a' ≤ c && c ≤ 'f') || ('A' ≤ c && c ≤ 'F')

/-- The value of a digit in any base up to sixteen. -/
def digitValue (c : Char) : Nat :=
  if c.isDigit then c.toNat - '0'.toNat else c.toLower.toNat - 'a'.toNat + 10

/-- The number that digits name in a base. -/
def ofDigits (base : Nat) (digits : List Char) : Nat :=
  digits.foldl (fun n c => n * base + digitValue c) 0

/-- The character of a code point that hexadecimal digits name. Surrogates are no characters. -/
def scalar? (digits : List Char) : Option Char :=
  let n := ofDigits 16 digits
  if digits.all isHexDigit && (n < 0xd800 || (0xdfff < n && n < 0x110000)) then some (Char.ofNat n)
  else none

/-! ## Strings -/

/-- An escape after its backslash: the character it names and what follows. -/
def escape? : List Char → Option (Char × List Char)
  | 'b' :: rest => some ('\x08', rest)
  | 't' :: rest => some ('\t', rest)
  | 'n' :: rest => some ('\n', rest)
  | 'f' :: rest => some ('\x0c', rest)
  | 'r' :: rest => some ('\r', rest)
  | 'e' :: rest => some ('\x1b', rest)
  | '"' :: rest => some ('"', rest)
  | '\\' :: rest => some ('\\', rest)
  | 'x' :: rest => digits 2 rest
  | 'u' :: rest => digits 4 rest
  | 'U' :: rest => digits 8 rest
  | _ => none
where
  /-- The character that the next `count` digits name. -/
  digits (count : Nat) (rest : List Char) : Option (Char × List Char) :=
    if count ≤ rest.length then (·, rest.drop count) <$> scalar? (rest.take count) else none

/-- A string with escapes, after its opening quote; on one line. -/
def basic? : (fuel : Nat) → List Char → Option (List Char × List Char)
  | 0, _ | _, [] => none
  | _ + 1, '"' :: rest => some ([], rest)
  | fuel + 1, '\\' :: rest => do
    let (c, rest) ← escape? rest
    let (cs, rest) ← basic? fuel rest
    return (c :: cs, rest)
  | fuel + 1, c :: rest => do
    guard (isTextual c)
    let (cs, rest) ← basic? fuel rest
    return (c :: cs, rest)

/-- A string without escapes, after its opening quote; on one line. -/
def literal? : List Char → Option (List Char × List Char)
  | [] => none
  | '\'' :: rest => some ([], rest)
  | c :: rest => do
    guard (isTextual c)
    let (cs, rest) ← literal? rest
    return (c :: cs, rest)

/-- The text after the end of a line. -/
def newline? : List Char → Option (List Char)
  | '\n' :: rest | '\r' :: '\n' :: rest => some rest
  | _ => none

/-- The text without the end of a line that it may start with. -/
def skipNewline (cs : List Char) : List Char :=
  (newline? cs).getD cs

/-- The text without the blanks and ends of lines that it starts with. -/
def skipBreaks : List Char → List Char
  | ' ' :: rest | '\t' :: rest | '\n' :: rest | '\r' :: '\n' :: rest => skipBreaks rest
  | cs => cs

/-- The end of a string of several lines: three quotes, before which one or two more may belong to
the string. -/
def closing? (quote : Char) (cs : List Char) : Option (List Char × List Char) :=
  let run := (cs.takeWhile (· == quote)).length
  if 3 ≤ run then
    let inside := min (run - 3) 2
    some (List.replicate inside quote, cs.drop (inside + 3))
  else none

/-- A string of several lines with escapes, after its opening quotes. A backslash at the end of a
line joins it to the next text. -/
def multilineBasic? : (fuel : Nat) → List Char → Option (List Char × List Char)
  | 0, _ | _, [] => none
  | fuel + 1, '\\' :: rest =>
    match newline? (rest.dropWhile isBlank) with
    | some rest => multilineBasic? fuel (skipBreaks rest)
    | none => do
      let (c, rest) ← escape? rest
      let (cs, rest) ← multilineBasic? fuel rest
      return (c :: cs, rest)
  | fuel + 1, '\r' :: '\n' :: rest => do
    let (cs, rest) ← multilineBasic? fuel rest
    return ('\r' :: '\n' :: cs, rest)
  | fuel + 1, c :: rest =>
    match closing? '"' (c :: rest) with
    | some found => some found
    | none => do
      guard (isTextual c || c == '\n')
      let (cs, rest) ← multilineBasic? fuel rest
      return (c :: cs, rest)

/-- A string of several lines without escapes, after its opening quotes. -/
def multilineLiteral? : List Char → Option (List Char × List Char)
  | [] => none
  | '\r' :: '\n' :: rest => do
    let (cs, rest) ← multilineLiteral? rest
    return ('\r' :: '\n' :: cs, rest)
  | c :: rest =>
    match closing? '\'' (c :: rest) with
    | some found => some found
    | none => do
      guard (isTextual c || c == '\n')
      let (cs, rest) ← multilineLiteral? rest
      return (c :: cs, rest)

/-- A string of any form. -/
def string? (cs : List Char) : Option (List Char × List Char) :=
  match cs with
  | '"' :: '"' :: '"' :: rest => multilineBasic? (rest.length + 1) (skipNewline rest)
  | '"' :: rest => basic? (rest.length + 1) rest
  | '\'' :: '\'' :: '\'' :: rest => multilineLiteral? (skipNewline rest)
  | '\'' :: rest => literal? rest
  | _ => none

/-! ## Numbers

The form of a number is told by a few of its characters. An integer of base ten with underscores may
go on with other characters than digits, and one of another base may have none; such numbers have no
value. -/

/-- Digits without the underscores between them. An underscore stands between two digits, and there
is a digit. -/
def underscored? (isDigit : Char → Bool) : List Char → Option (List Char)
  | [] => none
  | [c] => if isDigit c then some [c] else none
  | c :: '_' :: rest => if isDigit c then (c :: ·) <$> underscored? isDigit rest else none
  | c :: rest => if isDigit c then (c :: ·) <$> underscored? isDigit rest else none

/-- Whether each underscore stands between two digits; at the start of a text it stands well behind
what comes before if `standing`. -/
def underscoresFit (isDigit : Char → Bool) : (standing : Bool) → List Char → Bool
  | _, [] => true
  | _, ['_'] => false
  | standing, '_' :: c :: rest => standing && isDigit c && underscoresFit isDigit true rest
  | _, c :: rest => underscoresFit isDigit (isDigit c) rest

/-- A number without its underscores, which stand between two digits or between a sign and a
digit. -/
def separated? (isDigit : Char → Bool) : List Char → Option (List Char)
  | [] | '_' :: _ => none
  | c :: rest => do
    guard (underscoresFit isDigit true rest)
    return c :: rest.filter (· != '_')

/-- Whether a number is negative, and its text without the sign. -/
def splitSign : List Char → Bool × List Char
  | '-' :: rest => (true, rest)
  | '+' :: rest => (false, rest)
  | cs => (false, cs)

/-- The number that digits after a sign name. -/
def signed (negative : Bool) (digits : List Char) : Int :=
  let n : Int := ofDigits 10 digits
  if negative then -n else n

/-- An integer in a base other than ten, after what names the base. It has no value if it has no
digits. -/
def based? (base : Nat) (isDigit : Char → Bool) (cs : List Char) : Option Toml :=
  if cs.isEmpty then some unvalued
  else (fun ds => integer (ofDigits base ds)) <$> underscored? isDigit cs

/-- An integer of base ten: digits, or digits up to an underscore and then nearly anything. It has
no value if it holds more than digits. Zero does not come first unless it stands alone. -/
def decimal? (cs : List Char) : Option Toml := do
  let body := (splitSign cs).2
  guard (!body.isEmpty && (body.head? != some '0' || body.length = 1))
  let rest := body.dropWhile Char.isDigit
  guard (rest.isEmpty || rest.head? == some '_')
  guard (!rest.any fun c => c == '.' || c == 'e' || c == 'E' || c == ' ')
  let (negative, digits) := splitSign (← separated? isHexDigit cs)
  return if digits.all Char.isDigit then integer (signed negative digits) else unvalued

/-- An integer: decimal with a sign, or without one in base sixteen, eight or two. -/
def integer? : List Char → Option Toml
  | '0' :: 'x' :: rest => based? 16 isHexDigit rest
  | '0' :: 'o' :: rest => based? 8 (fun c => '0' ≤ c && c ≤ '7') rest
  | '0' :: 'b' :: rest => based? 2 (fun c => c == '0' || c == '1') rest
  | cs => decimal? cs

/-- A text if it is made of digits and not empty. -/
def digits? (cs : List Char) : Option (List Char) :=
  if !cs.isEmpty && cs.all Char.isDigit then some cs else none

/-- A power of ten after its letter. -/
def exponent? (cs : List Char) : Option Int :=
  let (negative, cs) := splitSign cs
  signed negative <$> digits? cs

/-- A float: digits with a point, a power of ten or both, or infinity or no number. It has no value
if it lies beyond the greatest float. -/
def float? (cs : List Char) : Option Toml := do
  let (negative, body) := splitSign cs
  if body = ['i', 'n', 'f'] then return float (Decimal.signed negative (1 / 0))
  if body = ['n', 'a', 'n'] then return float (Decimal.signed negative (0 / 0))
  let (_, cs) := splitSign (← separated? Char.isDigit cs)
  let (mantissa, power) := cs.span fun c => c != 'e' && c != 'E'
  let (before, after) := mantissa.span (· != '.')
  guard (!(power.isEmpty && after.isEmpty))
  guard (body.head? != some '0' || before.length = 1)
  let exponent ← match power with
    | [] => some 0
    | _ :: power => exponent? power
  let fraction ← match after with
    | [] => some []
    | _ :: fraction => digits? fraction
  let number : Decimal := { negative, whole := ← digits? before, fraction, exponent }
  return if number.nearest.isInf then unvalued else float number.nearest

/-! ## Dates and times -/

/-- The number that so many digits name, and what follows them. -/
def fixed? (count : Nat) (cs : List Char) : Option (Nat × List Char) := do
  let ds := cs.take count
  guard (ds.length = count && ds.all Char.isDigit)
  return (ofDigits 10 ds, cs.drop count)

/-- The text after a character. -/
def after? (c : Char) : List Char → Option (List Char)
  | d :: rest => if c == d then some rest else none
  | [] => none

/-- How many days a month has. -/
def daysIn (year month : Nat) : Nat :=
  if month = 2 then
    if year % 4 = 0 && (year % 100 != 0 || year % 400 = 0) then 29 else 28
  else if month = 4 || month = 6 || month = 9 || month = 11 then 30
  else 31

/-- What follows a date. -/
def date? (cs : List Char) : Option (List Char) := do
  let (year, cs) ← fixed? 4 cs
  let (month, cs) ← fixed? 2 (← after? '-' cs)
  let (day, cs) ← fixed? 2 (← after? '-' cs)
  guard (1 ≤ month && month ≤ 12 && 1 ≤ day && day ≤ daysIn year month)
  return cs

/-- What follows a time. Seconds may be missing, and may have a fraction. -/
def time? (cs : List Char) : Option (List Char) := do
  let (hour, cs) ← fixed? 2 cs
  let (minute, cs) ← fixed? 2 (← after? ':' cs)
  guard (hour ≤ 23 && minute ≤ 59)
  match cs with
  | ':' :: cs =>
    let (second, cs) ← fixed? 2 cs
    guard (second ≤ 60)
    match cs with
    | '.' :: cs =>
      guard (cs.head?.any Char.isDigit)
      return cs.dropWhile Char.isDigit
    | cs => return cs
  | cs => return cs

/-- Whether a text is the offset of a time zone. -/
def isOffset (cs : List Char) : Bool :=
  match cs with
  | ['Z'] | ['z'] => true
  | c :: cs =>
    (c == '+' || c == '-') &&
      (do
        let (hour, cs) ← fixed? 2 cs
        let (minute, cs) ← fixed? 2 (← after? ':' cs)
        guard (hour ≤ 23 && minute ≤ 59)
        return cs) == some []
  | [] => false

/-- Whether a text is a date, a time, or both, which may then have an offset. -/
def isMoment (cs : List Char) : Bool :=
  match date? cs with
  | some [] => true
  | some (c :: cs) =>
    (c == 'T' || c == 't' || c == ' ') &&
      (match time? cs with
      | some rest => rest.isEmpty || isOffset rest
      | none => false)
  | none => time? cs == some []

/-! ## Words -/

/-- Characters of which scalars without quotes are made: all that do not end a value. -/
def isWordChar (c : Char) : Bool :=
  !(isBlank c || ['=', ',', '[', ']', '{', '}', '#', '\r', '\n'].contains c)

/-- Whether a word goes on after blanks. -/
def resumes (cs : List Char) : Bool :=
  (cs.dropWhile isBlank).head?.any fun c => isWordChar c && !(['.', '"', '\''].contains c)

/-- A word, and what follows it. Blanks belong to it if it goes on after them. -/
def spanWord : List Char → List Char × List Char
  | [] => ([], [])
  | c :: rest =>
    if isWordChar c || (isBlank c && resumes rest) then
      let (word, rest) := spanWord rest
      (c :: word, rest)
    else ([], c :: rest)

/-- The scalar that a text without quotes is. -/
def ofWord? (cs : List Char) : Option Toml :=
  if cs = "true".toList then some (bool true)
  else if cs = "false".toList then some (bool false)
  else integer? cs <|> float? cs <|> if isMoment cs then some moment else none

/-- A scalar without quotes, and what follows it. -/
def word? (cs : List Char) : Option (Toml × List Char) :=
  let (word, rest) := spanWord cs
  (·, rest) <$> ofWord? word

end Fallible.Toml
