import Fallible.Json.Printer
import Fallible.Value

/-!
# Writing values as documents

An attempt is written as an object whose one key tells the branch, and so is a maybe, but for its
absence, which is a word. An option is its value or null. A cause is written with its kind, its
message and the cause it wraps, those that it has; foreign errors are not carried.

## Main definitions

* `Kind.toJson`, `Cause.toJson`, `Value.toJson`: values as trees
* `Value.encode`: values as texts
-/

namespace Fallible

/-- A kind as a tree: its name. -/
def Kind.toJson (k : Kind) : Json :=
  .text k.intoName

/-- A condition and those it wraps as a tree. -/
def Condition.chainToJson (outer : Condition) (wrapped : List Condition) : Json :=
  Json.record <|
    ("kind", .text outer.kind.name) ::
      ((outer.message.map fun message => ("message", Json.text message)).toList ++
        match wrapped with
        | [] => []
        | next :: rest => [("wrapped", next.chainToJson rest)])

/-- A cause as a tree. -/
def Cause.toJson (c : Cause) : Json :=
  c.condition.chainToJson c.wrapped

/-- Why a value has no document. -/
inductive EncodeError where
  /-- A key of a map has no text. -/
  | keyWithoutText
  deriving DecidableEq

/-- What the error says. -/
def EncodeError.message : EncodeError → String
  | keyWithoutText => "failed to encode value: key must be a string"

namespace Value

/-- The text of a value as a key: scalars have one, absence has its name, and an option that of the
value it holds. -/
def toKey : Value → Except EncodeError String
  | text s => .ok s
  | int n => .ok (toString n)
  | bool b => .ok (toString b)
  | absent => .ok "None"
  | some v => toKey v
  | _ => .error .keyWithoutText

mutual

/-- A value as a tree. -/
def toJson : Value → Except EncodeError Json
  | unit | none => .ok .null
  | bool b => .ok (.bool b)
  | int n => .ok (.integer n)
  | text s => .ok (.text s)
  | list items => .array <$> toJsons items
  | map entries => Json.record <$> toMembers entries
  | some v => toJson v
  | success v => (fun j => .record [("Success", j)]) <$> toJson v
  | failure c => .ok (.record [("Failure", c.cause.toJson)])
  | present v => (fun j => .record [("Some", j)]) <$> toJson v
  | absent => .ok (.text "None")
  | cause c => .ok c.toJson

/-- Values as trees. -/
def toJsons : List Value → Except EncodeError (List Json)
  | [] => .ok []
  | v :: vs => do return (← toJson v) :: (← toJsons vs)

/-- The entries of a map as the members of an object. -/
def toMembers : List (Value × Value) → Except EncodeError (List (String × Json))
  | [] => .ok []
  | (k, v) :: entries => do return (← toKey k, ← toJson v) :: (← toMembers entries)

end

/-- A value as a text. -/
def encode (v : Value) : Except EncodeError String :=
  (fun j => String.ofList j.render) <$> v.toJson

end Value

end Fallible
