import Fallible.Config.Basic
import Fallible.Decimal.Shortest
import Fallible.Mismatch
import Fallible.Toml.Document
import Fallible.Toml.Readable

/-!
# Reading configurations

A configuration is a TOML document. Of its top level only the table `fatal` is looked at; inside
that table every key must be known. Keys are looked at in alphabetical order, and the first thing
that is wrong ends the reading.

What is not looked at at the top level has to be passable. Where something is wrong the whole
document has to be readable, else the text counts as no document.

## Main definitions

* `Config.ofTable`: the configuration of a table
* `Config.parse`: the configuration of a text
-/

namespace Fallible.Config

/-- What is wrong with the contents of a configuration. -/
inductive Fault where
  | mismatch (m : Mismatch)
  | unknownField (name : String)
  deriving DecidableEq

/-- The keys of the table, in the order of the record. -/
def fields : List String :=
  ["include_defaults", "kinds", "exclude"]

/-- What is wrong, in words. -/
def Fault.message : Fault → String
  | mismatch m => m.message
  | unknownField name => "unknown field `" ++ name ++ "`, expected " ++ choice fields

/-- Why a text is no configuration. -/
inductive ParseError where
  /-- The text is no document, or holds values that cannot be read. -/
  | malformed
  | data (fault : Fault)
  deriving DecidableEq

/-- The fault of finding a value where something else is expected. -/
def mismatch (found : Toml) (expected : Expected) : Fault :=
  let of := fun found => Fault.mismatch ⟨found, expected⟩
  match found with
  | .text s => of (.text s)
  | .integer n => of (.integer n)
  | .float x => of (.float (Shortest.renderPlain x))
  | .unvalued => of (.float "inf")
  | .bool b => of (.bool b)
  | .array _ => of .sequence
  | .moment | .table _ => of .map

/-- A truth value. -/
def bool : Toml → Except Fault Bool
  | .bool b => .ok b
  | v => .error (mismatch v .bool)

/-- A kind by its name. -/
def kind : Toml → Except Fault Kind
  | .text s => .ok (Kind.ofName s)
  | v => .error (mismatch v .text)

/-- A list of kinds by their names. -/
def kinds : Toml → Except Fault (List Kind)
  | .array items => items.mapM kind
  | v => .error (mismatch v .sequence)

/-- Reads one entry of the table. -/
def Fatal.add (f : Fatal) : String × Toml → Except Fault Fatal
  | ("include_defaults", v) => (fun b => { f with includeDefaults := b }) <$> bool v
  | ("kinds", v) => (fun ks => { f with kinds := ks }) <$> Config.kinds v
  | ("exclude", v) => (fun ks => { f with exclude := ks }) <$> Config.kinds v
  | (name, _) => .error (.unknownField name)

/-- Reads the items of an array as the entries in order; later ones may be missing, and what follows
them is not looked at. -/
def Fatal.ofItems (items : List Toml) : Except Fault Fatal :=
  (fields.zip items).foldlM Fatal.add {}

/-- Entries in the alphabetical order of their keys. -/
def sorted (entries : List (String × Toml)) : List (String × Toml) :=
  entries.mergeSort fun a b => a.1 ≤ b.1

/-- Reads the value that describes a policy: a table, or an array of what the table would hold. -/
def Fatal.ofToml : Toml → Except Fault Fatal
  | .table entries => (sorted entries).foldlM Fatal.add {}
  | .array items => ofItems items
  | .moment => .error (.unknownField Toml.momentKey)
  | v => .error (mismatch v (.record "FatalConfig"))

/-- The configuration of a table. -/
def ofTable (entries : List (String × Toml)) : Except Fault Config :=
  match entries.lookup "fatal" with
  | none => .ok {}
  | some v => (fun f => { fatal := some f }) <$> Fatal.ofToml v

/-- The entries of the top level that are not looked at. -/
def ignored (entries : List (String × Toml)) : List (String × Toml) :=
  entries.filter (·.1 != "fatal")

/-- The configuration of a text. -/
def parse (text : String) : Except ParseError Config :=
  match Toml.ofText? text with
  | none => .error .malformed
  | some entries =>
    match ofTable entries with
    | .ok config =>
      if Toml.entriesPassable (ignored entries) then .ok config else .error .malformed
    | .error fault =>
      .error (if Toml.entriesReadable entries then .data fault else .malformed)

end Fallible.Config
