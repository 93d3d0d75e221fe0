import Fallible.Text.Quoted

/-!
# Structured text of values

How values are shown to a programmer: a `Term` says what is shown, and two layouts say how, either
on one line or as a block with one field to a line.
-/

namespace Fallible

/-- What is shown of a value. -/
inductive Term where
  /-- A word that stands as it is: a number, a name. -/
  | word (text : String)
  /-- A text in quotes. -/
  | quoted (text : String)
  /-- A name applied to fields. -/
  | tuple (name : String) (fields : List Term)
  /-- A name with named fields. -/
  | record (name : String) (fields : List (String × Term))
  | list (items : List Term)
  | map (entries : List (Term × Term))
  deriving Inhabited

/-- Types whose values can be shown to a programmer. -/
class Shown (α : Type) where
  term : α → Term

/-- Types whose values have a text of their own. -/
class Displayed (α : Type) where
  display : α → String

export Displayed (display)

namespace Term

/-! ## On one line -/

mutual

/-- The term on one line. -/
def line : Term → String
  | word text => text
  | quoted text => Quoted.render text
  | tuple name [] => name
  | tuple name fields => name ++ "(" ++ ", ".intercalate (lines fields) ++ ")"
  | record name [] => name
  | record name fields => name ++ " \x7b " ++ ", ".intercalate (fieldLines fields) ++ " \x7d"
  | list items => "[" ++ ", ".intercalate (lines items) ++ "]"
  | map entries => "\x7b" ++ ", ".intercalate (entryLines entries) ++ "\x7d"

/-- Each term on a line. -/
def lines : List Term → List String
  | [] => []
  | t :: ts => line t :: lines ts

/-- Each named field on a line. -/
def fieldLines : List (String × Term) → List String
  | [] => []
  | (name, t) :: fields => (name ++ ": " ++ line t) :: fieldLines fields

/-- Each entry of a map on a line. -/
def entryLines : List (Term × Term) → List String
  | [] => []
  | (k, v) :: entries => (line k ++ ": " ++ line v) :: entryLines entries

end

/-! ## As a block -/

/-- The blank space before a line at a depth: four spaces a level. -/
def indent (depth : Nat) : String :=
  String.join (List.replicate depth "    ")

/-- A bracketed group with each item on a line of its own, one level deeper than its brackets. -/
def group (depth : Nat) (opening closing : String) (items : List String) : String :=
  opening ++ "\n" ++ String.join (items.map (indent (depth + 1) ++ · ++ ",\n")) ++ indent depth ++
    closing

mutual

/-- The term as a block whose first line stands at `depth`; an empty list or map stays closed. -/
def blockAt (depth : Nat) : Term → String
  | word text => text
  | quoted text => Quoted.render text
  | tuple name [] => name
  | tuple name fields => group depth (name ++ "(") ")" (blocks (depth + 1) fields)
  | record name [] => name
  | record name fields => group depth (name ++ " \x7b") "\x7d" (fieldBlocks (depth + 1) fields)
  | list [] => "[]"
  | list items => group depth "[" "]" (blocks (depth + 1) items)
  | map [] => "\x7b\x7d"
  | map entries => group depth "\x7b" "\x7d" (entryBlocks (depth + 1) entries)

/-- Each term as a block. -/
def blocks (depth : Nat) : List Term → List String
  | [] => []
  | t :: ts => blockAt depth t :: blocks depth ts

/-- Each named field as a block. -/
def fieldBlocks (depth : Nat) : List (String × Term) → List String
  | [] => []
  | (name, t) :: fields => (name ++ ": " ++ blockAt depth t) :: fieldBlocks depth fields

/-- Each entry of a map as a block. -/
def entryBlocks (depth : Nat) : List (Term × Term) → List String
  | [] => []
  | (k, v) :: entries => (blockAt depth k ++ ": " ++ blockAt depth v) :: entryBlocks depth entries

end

/-- The term as a block. -/
def block (t : Term) : String :=
  blockAt 0 t

/-- The term of a value that may be absent. -/
def ofOption : Option Term → Term
  | none => word "None"
  | some t => tuple "Some" [t]

end Term

end Fallible
