import Fallible.Toml.Scalar
import Fallible.Toml.Table

/-!
# TOML documents

A document is a sequence of sections, each a header and the pairs of keys and values under it, the
first without a header. Reading gives the sections; putting them together gives the table.

## Main definitions

* `Toml.readValue`: a value, which may be a group nested at most eighty deep
* `Toml.sections?`: the sections of a text
* `Toml.ofText?`: the table of a text, if the text is a document
-/

namespace Fallible.Toml

/-! ## Gaps -/

/-- The text after blanks within a line. -/
def skipBlanks (cs : List Char) : List Char :=
  cs.dropWhile isBlank

/-- The text after blanks, comments and ends of lines. A comment must not hold controls. -/
def skipGaps (inComment : Bool) : List Char → Option (List Char)
  | [] => some []
  | '\n' :: rest | '\r' :: '\n' :: rest => skipGaps false rest
  | c :: rest =>
    if inComment then
      if isTextual c then skipGaps true rest else none
    else if isBlank c then skipGaps false rest
    else if c == '#' then skipGaps true rest
    else some (c :: rest)

/-- The text after the end of the line, before which only blanks and a comment may stand. -/
def finishLine (cs : List Char) : Option (List Char) :=
  let cs := skipBlanks cs
  let cs := match cs with
    | '#' :: rest => rest.dropWhile isTextual
    | cs => cs
  match cs with
  | [] => some []
  | cs => newline? cs

/-! ## Keys -/

/-- Characters of keys without quotes. -/
def isKeyChar (c : Char) : Bool :=
  c.isAlphanum || c == '_' || c == '-'

/-- A key without dots: bare, or a string on one line. -/
def key? : List Char → Option (String × List Char)
  | '"' :: rest => do
    let (cs, rest) ← basic? (rest.length + 1) rest
    return (String.ofList cs, rest)
  | '\'' :: rest => do
    let (cs, rest) ← literal? rest
    return (String.ofList cs, rest)
  | cs => do
    let (name, rest) := cs.span isKeyChar
    guard !name.isEmpty
    return (String.ofList name, rest)

/-- A key with dots, of at most `count` parts, as the keys before its last dot and the one after
it. -/
def path? : (count : Nat) → List Char → Option ((List String × String) × List Char)
  | 0, _ => none
  | count + 1, cs => do
    let (key, rest) ← key? (skipBlanks cs)
    match skipBlanks rest with
    | '.' :: rest =>
      let ((path, last), rest) ← path? count rest
      return ((key :: path, last), rest)
    | rest => return (([], key), rest)

/-- How many groups may be nested, and how many parts a key may have. -/
def room : Nat := 80

/-! ## Values -/

mutual

/-- A value, with `room` for so many groups within each other. -/
def readValue (room : Nat) : (fuel : Nat) → List Char → Option (Toml × List Char)
  | 0, _ => none
  | fuel + 1, cs =>
    match cs with
    | '[' :: rest => do
      guard (0 < room)
      let (items, rest) ← readItems (room - 1) fuel (← skipGaps false rest)
      return (.array items, rest)
    | '{' :: rest => do
      guard (0 < room)
      let (entries, rest) ← readEntries (room - 1) fuel [] (← skipGaps false rest)
      return (.table (Drafts.finish entries), rest)
    | cs =>
      if cs.head?.any fun c => c == '"' || c == '\'' then do
        let (s, rest) ← string? cs
        return (.text (String.ofList s), rest)
      else word? cs

/-- The items of an array up to its closing bracket. A comma may follow the last. -/
def readItems (room : Nat) : (fuel : Nat) → List Char → Option (List Toml × List Char)
  | 0, _ => none
  | _ + 1, ']' :: rest => some ([], rest)
  | fuel + 1, cs => do
    let (item, rest) ← readValue room fuel cs
    match ← skipGaps false rest with
    | ',' :: rest =>
      let (items, rest) ← readItems room fuel (← skipGaps false rest)
      return (item :: items, rest)
    | ']' :: rest => return ([item], rest)
    | _ => none

/-- The entries of a table in braces up to its closing brace, added to those before. A comma may
follow the last, and lines may end anywhere but inside a key. -/
def readEntries (room : Nat) : (fuel : Nat) → Drafts → List Char → Option (Drafts × List Char)
  | 0, _, _ => none
  | _ + 1, entries, '}' :: rest => some (entries, rest)
  | fuel + 1, entries, cs => do
    let ((path, key), rest) ← path? Toml.room cs
    let rest ← after? '=' (← skipGaps false rest)
    let (value, rest) ← readValue room fuel (← skipGaps false rest)
    let entries ← entries.insert path key value
    match ← skipGaps false rest with
    | ',' :: rest => readEntries room fuel entries (← skipGaps false rest)
    | '}' :: rest => return (entries, rest)
    | _ => none

end

/-! ## Sections -/

/-- What a section stands for. -/
inductive Header where
  /-- The document itself. -/
  | document
  | table (path : List String) (key : String)
  /-- One more table of an array of tables. -/
  | item (path : List String) (key : String)

/-- A pair: the path of its key, the last part of the key, and the value. -/
abbrev Pair := List String × String × Toml

/-- A header and the pairs under it. -/
structure Section where
  header : Header
  pairs : List Pair

/-- A header after its first bracket, and what follows its line. -/
def header? (cs : List Char) : Option (Header × List Char) := do
  match cs with
  | '[' :: rest =>
    let ((path, key), rest) ← path? room rest
    let rest ← finishLine (← after? ']' (← after? ']' rest))
    return (.item path key, rest)
  | rest =>
    let ((path, key), rest) ← path? room rest
    let rest ← finishLine (← after? ']' rest)
    return (.table path key, rest)

/-- A pair, and what follows its line. -/
def pair? (cs : List Char) : Option (Pair × List Char) := do
  let ((path, key), rest) ← path? room cs
  let rest ← after? '=' rest
  let (value, rest) ← readValue room (rest.length + 1) (skipBlanks rest)
  return ((path, key, value), ← finishLine rest)

/-- The pairs up to the next header, and the sections from there on. -/
def sections? : (fuel : Nat) → List Char → Option (List Pair × List Section)
  | 0, _ => none
  | fuel + 1, cs => do
    match ← skipGaps false cs with
    | [] => return ([], [])
    | '[' :: rest =>
      let (header, rest) ← header? rest
      let (pairs, sections) ← sections? fuel rest
      return ([], ⟨header, pairs⟩ :: sections)
    | cs =>
      let (pair, rest) ← pair? cs
      let (pairs, sections) ← sections? fuel rest
      return (pair :: pairs, sections)

/-- Adds pairs to a table. -/
def Section.fill (pairs : List Pair) (entries : Drafts) : Option Drafts :=
  pairs.foldlM (fun entries (path, key, value) => entries.insert path key value) entries

/-- Adds a section to a document. -/
def Section.place (entries : Drafts) (s : Section) : Option Drafts :=
  match s.header with
  | .document => fill s.pairs entries
  | .table path key => entries.openTable (fill s.pairs) path key
  | .item path key => entries.openItem (fill s.pairs) path key

/-- A text without the mark that it may start with. -/
def skipMark : List Char → List Char
  | '\ufeff' :: cs => cs
  | cs => cs

/-- The table of a text, if the text is a document. -/
def ofText? (text : String) : Option (List (String × Toml)) := do
  let cs := skipMark text.toList
  let (pairs, sections) ← sections? (cs.length + 1) cs
  let entries ← (⟨.document, pairs⟩ :: sections).foldlM Section.place []
  return Drafts.finish entries

end Fallible.Toml
