import Fallible.Attempt

/-!
# Values

The values that documents hold and that a caller passes around without fixing their type: scalars,
texts, lists, maps, options, attempts, maybes and causes. What a value is shown as, compared by and
hashed to is what the type inside it prescribes; values of different sorts are never equal.
-/

namespace Fallible

/-- A value of any of the sorts that documents know. -/
inductive Value where
  | unit
  | bool (b : Bool)
  | int (n : Int)
  | text (s : String)
  | list (items : List Value)
  /-- A map as the list of its entries, in order. -/
  | map (entries : List (Value × Value))
  /-- An option that holds no value. -/
  | none
  /-- An option that holds a value. -/
  | some (v : Value)
  | success (v : Value)
  | failure (c : Captured)
  | present (v : Value)
  | absent
  | cause (c : Cause)
  deriving Inhabited

namespace Value

/-! ## Sorts -/

/-- An attempt as a value. -/
def ofAttempt : Attempt Value → Value
  | .success v => success v
  | .failure c => failure c

/-- The attempt that a value is. -/
def toAttempt? : Value → Option (Attempt Value)
  | success v => Option.some (.success v)
  | failure c => Option.some (.failure c)
  | _ => Option.none

/-- A maybe as a value. -/
def ofMaybe : Maybe Value → Value
  | .present v => present v
  | .absent => absent

/-- The maybe that a value is. -/
def toMaybe? : Value → Option (Maybe Value)
  | present v => Option.some (.present v)
  | absent => Option.some .absent
  | _ => Option.none

/-- An option as a value. -/
def ofOption : Option Value → Value
  | Option.some v => some v
  | Option.none => none

/-- The option that a value is. -/
def toOption? : Value → Option (Option Value)
  | some v => Option.some (Option.some v)
  | none => Option.some Option.none
  | _ => Option.none

/-- The cause that a value is. -/
def toCause? : Value → Option Cause
  | cause c => Option.some c
  | _ => Option.none

/-! ## Text -/

mutual

/-- How a value is shown to a programmer. -/
def term : Value → Term
  | unit => .word "()"
  | bool b => .word (toString b)
  | int n => .word (toString n)
  | text s => .quoted s
  | list items => .list (terms items)
  | map entries => .map (entryTerms entries)
  | none => Term.ofOption Option.none
  | some v => Term.ofOption (Option.some (term v))
  | success v => .tuple "Success" [term v]
  | failure c => .tuple "Failure" [Shown.term c]
  | present v => .tuple "Some" [term v]
  | absent => .word "None"
  | cause c => Shown.term c

/-- How each value is shown. -/
def terms : List Value → List Term
  | [] => []
  | v :: vs => term v :: terms vs

/-- How each entry is shown. -/
def entryTerms : List (Value × Value) → List (Term × Term)
  | [] => []
  | (k, v) :: entries => (term k, term v) :: entryTerms entries

end

instance : Shown Value :=
  ⟨term⟩

/-- The text of a value. A sort without a text of its own is written as it is shown. -/
def display : Value → String
  | text s => s
  | success v => "Success(" ++ display v ++ ")"
  | failure c => "Failure(" ++ Fallible.display c ++ ")"
  | present v => "Some(" ++ display v ++ ")"
  | absent => "None"
  | cause c => Fallible.display c
  | v => v.term.line

instance : Displayed Value :=
  ⟨display⟩

/-! ## Equality and digests -/

mutual

/-- Whether two values are equal: of one sort, with equal contents, causes by identity. -/
def beq : Value → Value → Bool
  | unit, unit | none, none | absent, absent => true
  | bool a, bool b => a == b
  | int a, int b => a == b
  | text a, text b => a == b
  | list as, list bs => beqList as bs
  | map as, map bs => beqEntries as bs
  | some a, some b | success a, success b | present a, present b => beq a b
  | failure c, failure d => c == d
  | cause c, cause d => c == d
  | _, _ => false

/-- Whether two lists hold equal values. -/
def beqList : List Value → List Value → Bool
  | [], [] => true
  | a :: as, b :: bs => beq a b && beqList as bs
  | _, _ => false

/-- Whether two maps hold equal entries in the same order. -/
def beqEntries : List (Value × Value) → List (Value × Value) → Bool
  | [], [] => true
  | (k, v) :: as, (l, w) :: bs => beq k l && beq v w && beqEntries as bs
  | _, _ => false

end

instance : BEq Value :=
  ⟨beq⟩

mutual

/-- What a value feeds to a hash function. No sort leaves a mark of its own. -/
def digest : Value → Digest
  | unit => []
  | bool b => Digest.word 1 b.toNat
  | int n => Digest.word 8 n
  | text s => Digest.text s
  | list items => Digest.word 8 items.length ++ digests items
  | map entries => Digest.word 8 entries.length ++ entryDigests entries
  | none => Digest.word 8 0
  | some v => Digest.word 8 1 ++ digest v
  | success v => Digest.salt ++ digest v
  | failure c => Fallible.digest c
  | present v => Digest.salt ++ digest v
  | absent => Digest.absent
  | cause c => Fallible.digest c

/-- What a list of values feeds to a hash function. -/
def digests : List Value → Digest
  | [] => []
  | v :: vs => digest v ++ digests vs

/-- What the entries of a map feed to a hash function. -/
def entryDigests : List (Value × Value) → Digest
  | [] => []
  | (k, v) :: entries => digest k ++ digest v ++ entryDigests entries

end

instance : Digestible Value :=
  ⟨digest⟩

/-- Adds to a collection of distinct values those of a list that are not in it yet, and says of each
whether it was added. -/
def insertAll (seen : List Value) : List Value → List Bool × List Value
  | [] => ([], seen)
  | v :: vs =>
    let isNew := !seen.any (beq · v)
    let (news, seen) := insertAll (if isNew then seen ++ [v] else seen) vs
    (isNew :: news, seen)

end Value

end Fallible
