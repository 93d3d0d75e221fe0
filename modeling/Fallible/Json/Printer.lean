import Fallible.Json.Basic

/-!
# Writing JSON

A tree is written without blanks. In strings only the quote, the backslash and the controls are
escaped.
-/

namespace Fallible.Json

/-- One character as it is written in a string. -/
def escape (c : Char) : List Char :=
  match c with
  | '"' => ['\\', '"']
  | '\\' => ['\\', '\\']
  | '\x08' => ['\\', 'b']
  | '\x0c' => ['\\', 'f']
  | '\n' => ['\\', 'n']
  | '\r' => ['\\', 'r']
  | '\t' => ['\\', 't']
  | _ =>
    if c.toNat < 0x20 then
      ['\\', 'u', '0', '0', Nat.digitChar (c.toNat / 16), Nat.digitChar (c.toNat % 16)]
    else [c]

/-- A text as a string. -/
def quote (s : String) : List Char :=
  '"' :: s.toList.flatMap escape ++ ['"']

/-- A string that names no text is written as half a surrogate pair. -/
def renderString : Option String → List Char
  | some s => quote s
  | none => "\"\\ud800\"".toList

/-- A number around a point or with a power of ten, or both, so that it is not read as an
integer. -/
def renderDecimal (d : Decimal) : List Char :=
  (if d.negative then ['-'] else []) ++ d.whole ++
    (if d.fraction.isEmpty then [] else '.' :: d.fraction) ++
    if d.exponent = 0 && !d.fraction.isEmpty then [] else 'e' :: (toString d.exponent).toList

mutual

/-- The tree as a text. -/
def render : Json → List Char
  | null => "null".toList
  | bool true => "true".toList
  | bool false => "false".toList
  | integer n => (toString n).toList
  | decimal d => renderDecimal d
  | string s => renderString s
  | array items => '[' :: renderItems items ++ [']']
  | object members => '{' :: renderMembers members ++ ['}']
  | cut => []

/-- Items with commas between them. -/
def renderItems : List Json → List Char
  | [] => []
  | [item] => render item
  | item :: items => render item ++ ',' :: renderItems items

/-- Members with commas between them. -/
def renderMembers : List (Option String × Json) → List Char
  | [] => []
  | [(key, value)] => renderString key ++ ':' :: render value
  | (key, value) :: members =>
    renderString key ++ ':' :: render value ++ ',' :: renderMembers members

end

end Fallible.Json
