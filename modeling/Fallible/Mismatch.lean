import Fallible.Text.Quoted

/-!
# Mismatches

What is wrong where a document holds one thing and another is expected.
-/

namespace Fallible

/-- What a document holds at a place. -/
inductive Found where
  | null
  | bool (b : Bool)
  | integer (n : Int)
  /-- A number that is no integer, by its text. -/
  | float (digits : String)
  | text (s : String)
  | sequence
  | map
  /-- The bare name of a variant that should hold something. -/
  | bareVariant
  deriving DecidableEq

/-- What is found, in words. -/
def Found.describe : Found → String
  | null => "null"
  | bool b => "boolean `" ++ toString b ++ "`"
  | integer n => "integer `" ++ toString n ++ "`"
  | float digits => "floating point `" ++ digits ++ "`"
  | text s => "string " ++ Quoted.render s
  | sequence => "sequence"
  | map => "map"
  | bareVariant => "unit variant"

/-- What is expected at a place. -/
inductive Expected where
  | unit
  | bool
  /-- An integer of the width named. -/
  | integer (width : String)
  | text
  | sequence
  /-- The record named. -/
  | record (name : String)
  /-- A variant that holds something. -/
  | holdingVariant
  deriving DecidableEq

/-- What is expected, in words. -/
def Expected.describe : Expected → String
  | unit => "unit"
  | bool => "a boolean"
  | integer width => width
  | text => "a string"
  | sequence => "a sequence"
  | record name => "struct " ++ name
  | holdingVariant => "newtype variant"

/-- One thing where another is expected. -/
structure Mismatch where
  found : Found
  expected : Expected
  deriving DecidableEq

/-- The mismatch in words. -/
def Mismatch.message (m : Mismatch) : String :=
  "invalid type: " ++ m.found.describe ++ ", expected " ++ m.expected.describe

/-- Names in quotes, as a choice of one of them. -/
def choice (names : List String) : String :=
  match names.map fun name => "`" ++ name ++ "`" with
  | [first, second] => first ++ " or " ++ second
  | [only] => only
  | several => "one of " ++ ", ".intercalate several

end Fallible
