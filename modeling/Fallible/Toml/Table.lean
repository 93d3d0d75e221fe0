import Fallible.Toml.Basic

/-!
# Tables under construction

A document names its tables piece by piece, and each table may be given by one means only: a header
of its own, a key with dots, or the header of a table inside it, which a header of its own may still
follow. A table written out in braces is complete and cannot be added to.

## Main definitions

* `Draft`, `Drafts`: entries of tables under construction
* `Drafts.insert`: adds a value under a key with dots
* `Drafts.openTable`, `Drafts.openItem`: adds what stands under a header
* `Drafts.finish`: the entries once all is read
-/

namespace Fallible.Toml

/-- What made a table come into being. -/
inductive Origin where
  /-- A header of its own. -/
  | header
  /-- The header of a table inside it. -/
  | implied
  /-- A key with dots. -/
  | dotted
  deriving DecidableEq

/-- An entry of a table under construction. -/
inductive Draft where
  | value (v : Toml)
  | table (origin : Origin) (entries : List (String × Draft))
  /-- An array of tables, the last of which is being built. -/
  | tables (earlier : List (List (String × Draft))) (last : List (String × Draft))

/-- The entries of a table under construction. -/
abbrev Drafts := List (String × Draft)

namespace Drafts

/-- Replaces the entry of a key, or adds one at the end; `f` says by what, if it is possible. -/
def update (key : String) (f : Option Draft → Option Draft) : Drafts → Option Drafts
  | [] => do return [(key, ← f none)]
  | (k, d) :: entries =>
    if k = key then do return (k, ← f (some d)) :: entries
    else do return (k, d) :: (← update key f entries)

/-- Adds a value under the path of a key with dots. The tables on the path are new, or were made by
such keys, or were implied by headers so far; from now on they all count as made by such keys. The
path may lead through an array of tables, but not end there. -/
def insert : (path : List String) → (key : String) → Toml → Drafts → Option Drafts
  | [], key, v, entries =>
    entries.update key fun
      | none => some (.value v)
      | some _ => none
  | k :: path, key, v, entries =>
    entries.update k fun
      | none => do return .table .dotted (← insert path key v [])
      | some (.table .dotted inner) | some (.table .implied inner) => do
        return .table .dotted (← insert path key v inner)
      | some (.tables earlier last) =>
        if path.isEmpty then none else do return .tables earlier (← insert path key v last)
      | some (.table .header _) | some (.value _) => none

/-- Goes down the path of a header and then changes the entry of its last key. -/
def descend (f : Option Draft → Option Draft) : (path : List String) → (key : String) → Drafts →
    Option Drafts
  | [], key, entries => entries.update key f
  | k :: path, key, entries =>
    entries.update k fun
      | none => do return .table .implied (← descend f path key [])
      | some (.table origin inner) => do return .table origin (← descend f path key inner)
      | some (.tables earlier last) => do return .tables earlier (← descend f path key last)
      | some (.value _) => none

/-- Adds the table of a header, filled by `fill`. It is new, or was only implied so far. -/
def openTable (fill : Drafts → Option Drafts) : List String → String → Drafts → Option Drafts :=
  descend fun
    | none => do return .table .header (← fill [])
    | some (.table .implied inner) => do return .table .header (← fill inner)
    | some _ => none

/-- Adds one more table, filled by `fill`, to the array of tables of a header. -/
def openItem (fill : Drafts → Option Drafts) : List String → String → Drafts → Option Drafts :=
  descend fun
    | none => do return .tables [] (← fill [])
    | some (.tables earlier last) => do return .tables (earlier ++ [last]) (← fill [])
    | some _ => none

mutual

/-- The value of an entry once all is read. -/
def finishDraft : Draft → Toml
  | .value v => v
  | .table _ entries => .table (finish entries)
  | .tables earlier last => .array (finishAll earlier ++ [.table (finish last)])

/-- The entries once all is read. -/
def finish : List (String × Draft) → List (String × Toml)
  | [] => []
  | (key, d) :: entries => (key, finishDraft d) :: finish entries

/-- Each table once all is read. -/
def finishAll : List (List (String × Draft)) → List Toml
  | [] => []
  | entries :: more => .table (finish entries) :: finishAll more

end

end Drafts

end Fallible.Toml
