import Fallible.Toml.Scalar

/-!
# Readable TOML values

Numbers get their values when somebody looks at them, so a document may hold numbers that have none.
How wide an integer may be depends on who looks: a reader who passes over a value takes 128 bits,
one who keeps it 64 with a sign.

A reader who keeps values knows a date or a time by the key that it stands under, and takes any
table for one that has this key before all others.

## Main definitions

* `Toml.isPassable`: whether a value can be passed over
* `Toml.isReadable`: whether a value can be kept
-/

namespace Fallible.Toml

/-- Integers of 64 bits with a sign. -/
def isWord (n : Int) : Bool :=
  -9223372036854775808 ≤ n && n < 9223372036854775808

/-- Integers of 128 bits, with or without a sign. -/
def isLongWord (n : Int) : Bool :=
  -Int.pow 2 127 ≤ n && n < Int.pow 2 128

/-! ## Passing over values -/

mutual

/-- Whether a value can be passed over: all its numbers have values, and its integers 128 bits. -/
def isPassable : Toml → Bool
  | integer n => isLongWord n
  | unvalued => false
  | array items => arePassable items
  | table entries => entriesPassable entries
  | text _ | float _ | bool _ | moment => true

/-- Whether every item can be passed over. -/
def arePassable : List Toml → Bool
  | [] => true
  | item :: items => isPassable item && arePassable items

/-- Whether every entry can be passed over. -/
def entriesPassable : List (String × Toml) → Bool
  | [] => true
  | (_, value) :: entries => isPassable value && entriesPassable entries

end

/-! ## Keeping values -/

/-- The key under which a date or a time stands if it is looked at as a table. -/
def momentKey : String := "$__toml_private_datetime"

/-- Whether a value is the text of a date or a time. -/
def isMomentText : Toml → Bool
  | text s => isMoment s.toList
  | _ => false

/-- What stands under the key of dates and times, if no other key comes before it. -/
def momentEntry? (entries : List (String × Toml)) : Option Toml :=
  if entries.all fun (key, _) => momentKey ≤ key then entries.lookup momentKey else none

mutual

/-- Whether a value can be kept: all its numbers have values, its integers 64 bits, and its tables
that are taken for a date or a time hold the text of one. -/
def isReadable : Toml → Bool
  | integer n => isWord n
  | unvalued => false
  | array items => areReadable items
  | table entries =>
    match momentEntry? entries with
    | some value => value.isMomentText
    | none => entriesReadable entries
  | text _ | float _ | bool _ | moment => true

/-- Whether every item can be kept. -/
def areReadable : List Toml → Bool
  | [] => true
  | item :: items => isReadable item && areReadable items

/-- Whether every entry can be kept. -/
def entriesReadable : List (String × Toml) → Bool
  | [] => true
  | (_, value) :: entries => isReadable value && entriesReadable entries

end

end Fallible.Toml
