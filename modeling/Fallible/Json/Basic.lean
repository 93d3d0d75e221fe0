import Fallible.Decimal.Basic

/-!
# JSON documents

A document as a tree. Strings are known by the text they name, if they name one, numbers by their
value if they are integers of 64 bits and by their digits if not. A tree also stands for the
beginning of what is no document: there the last item of every group that was left open is
`Json.cut`.
-/

namespace Fallible

/-- A JSON document, or as much of one as could be read. -/
inductive Json where
  | null
  | bool (b : Bool)
  /-- An integer of 64 bits, with or without a sign. -/
  | integer (n : Int)
  /-- Any other number. -/
  | decimal (d : Decimal)
  /-- A string; there is no text if its escapes name half a surrogate pair, or if it holds a byte
  that spells no character. -/
  | string (text : Option String)
  | array (items : List Json)
  /-- An object, its members in order. -/
  | object (members : List (Option String × Json))
  /-- The place from which on there is no document. -/
  | cut
  deriving Inhabited

namespace Json

/-- A string that names a text. -/
def text (s : String) : Json :=
  string (some s)

/-- An object whose members have texts for keys. -/
def record (members : List (String × Json)) : Json :=
  object (members.map fun (key, value) => (some key, value))

end Json

end Fallible
