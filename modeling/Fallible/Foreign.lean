import Fallible.Text.Integer
import Fallible.Text.Term

/-!
# Foreign errors

Errors of other libraries that a cause may rest on. Nothing is asked of them but what they say, how
they are shown, and what the errors beneath them say.
-/

namespace Fallible

/-- An error that is not a cause. -/
structure Foreign where
  /-- What the error says. -/
  text : String
  /-- How it is shown to a programmer. -/
  term : Term
  /-- What the errors beneath it say, the nearest first. -/
  beneath : List String := []

/-- The families of input and output errors. -/
inductive IoKind where
  | notFound
  | permissionDenied
  | invalidData
  | unexpectedEnd
  deriving DecidableEq

namespace IoKind

/-- The family's name. -/
def name : IoKind → String
  | notFound => "NotFound"
  | permissionDenied => "PermissionDenied"
  | invalidData => "InvalidData"
  | unexpectedEnd => "UnexpectedEof"

/-- What an error of the family says when it has no message. -/
def text : IoKind → String
  | notFound => "entity not found"
  | permissionDenied => "permission denied"
  | invalidData => "invalid data"
  | unexpectedEnd => "unexpected end of file"

/-- Every family. -/
def all : List IoKind :=
  [notFound, permissionDenied, invalidData, unexpectedEnd]

/-- The family of a name. -/
def ofName? (name : String) : Option IoKind :=
  all.find? (·.name == name)

end IoKind

namespace Foreign

/-- An input or output error of a family, with a message of its own or with the family's. -/
def io (kind : IoKind) : Option String → Foreign
  | none => { text := kind.text, term := .tuple "Kind" [.word kind.name] }
  | some message =>
    { text := message
      term := .record "Custom" [("kind", .word kind.name), ("error", .quoted message)] }

/-- The error of reading an integer. -/
def integer (fault : IntegerFault) : Foreign :=
  { text := fault.display
    term := .record "ParseIntError" [("kind", .word fault.name)] }

/-- How a stack of plain errors is shown: each holds the one beneath it. -/
def layeredTerm (text : String) : List String → Term
  | [] => .tuple "Foreign" [.quoted text, Term.ofOption none]
  | next :: rest => .tuple "Foreign" [.quoted text, Term.ofOption (some (layeredTerm next rest))]

/-- A stack of plain errors, each known by its text alone. -/
def layered (text : String) (beneath : List String) : Foreign :=
  { text, term := layeredTerm text beneath, beneath }

end Foreign

end Fallible
