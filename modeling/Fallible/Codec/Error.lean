import Fallible.Codec.Schema
import Fallible.Json.Standing
import Fallible.Mismatch

/-!
# Why a document is refused

Three layers: there is no document, the document's structure is none that is looked into, or what it
holds is not what the schema asks for. The first layer counts before the others: where it is not
known because groups are nested too deep, it is the second.
-/

namespace Fallible

/-- What is wrong with the contents of a document. -/
inductive Decode.Fault where
  | mismatch (m : Mismatch)
  /-- An integer of another width. -/
  | outOfRange (n : Int) (width : Width)
  | unknownVariant (name : String) (known : List String)
  | missingField (name : String)
  | duplicateField (name : String)
  /-- An array too short for the record named, which has so many fields. -/
  | tooShort (length : Nat) (record : String) (fields : Nat)
  /-- A failure whose cause is fatal, by the text of the refusal. -/
  | fatal (refusal : String)
  deriving DecidableEq

/-- Why a document is refused. -/
inductive DecodeError where
  /-- There is no document. -/
  | malformed
  /-- The structure is not looked into: no variant, too many items, or nested too deep. -/
  | shape
  | data (fault : Decode.Fault)
  deriving DecidableEq

/-- The error as it is reported, given how all that was read stands as a document. -/
def DecodeError.under : Json.Standing → DecodeError → DecodeError
  | .broken, _ => malformed
  | .whole, malformed | .tooDeep, malformed => shape
  | .whole, e | .tooDeep, e => e

namespace Decode

/-- The text after a word it starts with. -/
def after? : (word : List Char) → List Char → Option (List Char)
  | [], cs => some cs
  | w :: word, c :: cs => if w == c then after? word cs else none
  | _ :: _, [] => none

/-- The text after a number it starts with, which must fit 64 bits. -/
def afterNumber? (cs : List Char) : Option (List Char) :=
  match cs.span Char.isDigit with
  | ([], _) => none
  | (digits, rest) =>
    let n := digits.foldl (fun n c => n * 10 + (c.toNat - '0'.toNat)) 0
    if n < 18446744073709551616 then some rest else none

/-- Whether a text is a position: a line and a column, and nothing more. -/
def isPosition (cs : List Char) : Bool :=
  (do
    let cs ← after? " at line ".toList cs
    let cs ← afterNumber? cs
    let cs ← after? " column ".toList cs
    afterNumber? cs) == some []

/-- A text without the position it ends with. A position belongs to the report, not to the
message. -/
def withoutPosition : List Char → List Char
  | [] => []
  | c :: cs => if isPosition (c :: cs) then [] else c :: withoutPosition cs

/-- What is wrong, in words. -/
def Fault.message : Fault → String
  | mismatch m => m.message
  | outOfRange n width => "invalid value: integer `" ++ toString n ++ "`, expected " ++ width.name
  | unknownVariant name known => "unknown variant `" ++ name ++ "`, expected " ++ choice known
  | missingField name => "missing field `" ++ name ++ "`"
  | duplicateField name => "duplicate field `" ++ name ++ "`"
  | tooShort length record fields =>
    "invalid length " ++ toString length ++ ", expected struct " ++ record ++ " with " ++
      toString fields ++ " elements"
  | fatal refusal => String.ofList (withoutPosition refusal.toList)

end Decode

/-- What the error says, where there is more to say than its layer. -/
def DecodeError.message? : DecodeError → Option String
  | malformed | shape => none
  | data fault => some ("failed to decode value: " ++ fault.message)

end Fallible
