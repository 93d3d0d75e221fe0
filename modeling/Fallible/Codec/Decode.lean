import Fallible.Codec.Error
import Fallible.Decimal.Shortest
import Fallible.Json.Reader
import Fallible.Value

/-!
# Reading values from documents

A document is read as a schema from its start to its end, and the first thing that is wrong ends the
reading. The cause of a failure is judged as soon as it is read, and a fatal one refuses the
document; nothing unwinds and nothing is reported. Groups may be nested 127 deep where they are
looked into. What no schema asks for is only skipped over: unless something else is wrong, it may be
nested deeper, and its strings and numbers need not have a value.

## Main definitions

* `Record`, `Record.ofJson`: what a document tells of a cause
* `Schema.ofJson`: the value of a tree
* `Schema.decode`, `Schema.decodeBytes`: the value of a text and of bytes
-/

namespace Fallible

variable {σ : Type}

namespace Decode

/-- The error of finding a tree where something else is expected. A string or number that names
nothing is no document. -/
def mismatch (found : Json) (expected : Expected) : DecodeError :=
  let data := fun found => DecodeError.data (.mismatch ⟨found, expected⟩)
  match found with
  | .null => data .null
  | .bool b => data (.bool b)
  | .integer n => data (.integer n)
  | .decimal d =>
    match d.scaled? with
    | some x => data (.float (Shortest.renderShort x))
    | none => .malformed
  | .string (some s) => data (.text s)
  | .string none => .malformed
  | .array _ => data .sequence
  | .object _ => data .map
  | .cut => .malformed

/-- The text of a string. -/
def text : Json → Except DecodeError String
  | .string (some s) => .ok s
  | j => .error (mismatch j .text)

/-- The text of a string, if there is one: null stands for none. -/
def text? : Json → Except DecodeError (Option String)
  | .null => .ok none
  | j => some <$> text j

/-- The kind that a string names. -/
def kind (j : Json) : Except DecodeError Kind :=
  Kind.ofName <$> text j

end Decode

/-! ## Causes -/

/-- What a document tells of a cause: the kind and message of every condition, outermost first. -/
structure Record where
  kind : Kind
  message : Option String
  wrapped : List (Kind × Option String) := []

namespace Record

/-- The kind and message of every condition of the record. -/
def chain (r : Record) : List (Kind × Option String) :=
  (r.kind, r.message) :: r.wrapped

/-- The fields of a record read so far; a field that was read may hold nothing. -/
structure Fields where
  kind : Option Kind := none
  message : Option (Option String) := none
  wrapped : Option (Option Record) := none

/-- The record of its fields. Only the kind is needed. -/
def Fields.finish (f : Fields) : Except DecodeError Record :=
  match f.kind with
  | none => .error (.data (.missingField "kind"))
  | some kind =>
    .ok {
      kind
      message := f.message.join
      wrapped := (f.wrapped.join.map chain).getD [] }

/-- The record wrapped in another, if there is one: null stands for none. -/
def wrapped? (read : Json → Except DecodeError Record) :
    Json → Except DecodeError (Option Record)
  | .null => .ok none
  | j => some <$> read j

/-- Reads one more member of an object. A key may be unknown, but a known one comes once. -/
def Fields.add (read : Json → Except DecodeError Record) (f : Fields) :
    Option String × Json → Except DecodeError Fields
  | (none, _) => .error .malformed
  | (some "kind", j) =>
    if f.kind.isSome then .error (.data (.duplicateField "kind"))
    else (fun kind => { f with kind := some kind }) <$> Decode.kind j
  | (some "message", j) =>
    if f.message.isSome then .error (.data (.duplicateField "message"))
    else (fun message => { f with message := some message }) <$> Decode.text? j
  | (some "wrapped", j) =>
    if f.wrapped.isSome then .error (.data (.duplicateField "wrapped"))
    else (fun wrapped => { f with wrapped := some wrapped }) <$> wrapped? read j
  | (some _, _) => .ok f

/-- Reads the items of an array as the fields in order; later ones may be missing. -/
def Fields.ofItems (read : Json → Except DecodeError Record) :
    List Json → Except DecodeError Fields
  | [] => .error (.data (.tooShort 0 "CauseRecord" 3))
  | [k] => do return { kind := some (← Decode.kind k) }
  | [k, m] => do
    return { kind := some (← Decode.kind k), message := some (← Decode.text? m) }
  | k :: m :: w :: more => do
    let fields : Fields := {
      kind := some (← Decode.kind k)
      message := some (← Decode.text? m)
      wrapped := some (← wrapped? read w) }
    if more.isEmpty then return fields else .error .shape

/-- Reads a record from an object or an array, with `room` for so many groups within each other. -/
def ofJson : (room : Nat) → Json → Except DecodeError Record
  | 0, .object _ | 0, .array _ => .error .shape
  | room + 1, .object members => do (← members.foldlM (Fields.add (ofJson room)) {}).finish
  | room + 1, .array items => do (← Fields.ofItems (ofJson room) items).finish
  | _, j => .error (Decode.mismatch j (.record "CauseRecord"))

/-- Raises new conditions that say what the record tells. -/
def raise (r : Record) : Run σ Cause := do
  return {
    condition := ← condition r.kind r.message
    wrapped := ← r.wrapped.mapM fun (kind, message) => condition kind message }
where
  /-- Raises one condition. -/
  condition (kind : Kind) (message : Option String) : Run σ Condition := do
    return { id := ← Run.fresh, kind, message }

end Record

/-! ## Variants -/

/-- A variant as a document writes it. -/
inductive Variant where
  /-- A name alone. -/
  | bare (name : String)
  /-- A name and what it holds, with the room left for groups in it, and whether no other member
  follows. -/
  | holding (name : String) (value : Json) (room : Nat) (isAlone : Bool)

/-- Reads the name of a variant: a string, or the first key of an object. -/
def Variant.ofJson (room : Nat) (known : List String) : Json → Except DecodeError Variant
  | .string none | .cut => .error .malformed
  | .string (some name) => bare <$> check name
  | .object ((key, value) :: more) =>
    match room with
    | 0 => .error .shape
    | room + 1 =>
      match key with
      | none => .error .malformed
      | some name => (holding · value room more.isEmpty) <$> check name
  | _ => .error .shape
where
  /-- A name that is known. -/
  check (name : String) : Except DecodeError String :=
    if known.contains name then .ok name else .error (.data (.unknownVariant name known))

/-! ## Values -/

namespace Decode

/-- Reads items one after the other. -/
def items (read : Json → Run σ (Except DecodeError Value)) :
    List Json → Run σ (Except DecodeError (List Value))
  | [] => return .ok []
  | j :: js => do
    match ← read j with
    | .error e => return .error e
    | .ok v => return (← items read js).map (v :: ·)

/-- Reads what a variant holds, and refuses a member after it. -/
def only (isAlone : Bool) (answer : Except DecodeError Value) : Except DecodeError Value :=
  match answer with
  | .ok v => if isAlone then .ok v else .error .shape
  | .error e => .error e

/-- Reads a cause, and judges it. -/
def failure (room : Nat) (j : Json) : Run σ (Except DecodeError Value) := do
  match Record.ofJson room j with
  | .error e => return .error e
  | .ok record =>
    match ← Captured.ofCause (← record.raise) with
    | .ok c => return .ok (.failure c)
    | .error refusal => return .error (.data (.fatal refusal.message))

/-- Reads null. -/
def unit : Json → Except DecodeError Value
  | .null => .ok .unit
  | j => .error (mismatch j .unit)

end Decode

/-- Reads a tree as a schema, with `room` for so many groups within each other. -/
def Schema.ofJson (room : Nat) : Schema → Json → Run σ (Except DecodeError Value)
  | .unit, j => return Decode.unit j
  | .bool, .bool b => return .ok (.bool b)
  | .bool, j => return .error (Decode.mismatch j .bool)
  | .integer w, .integer n =>
    return if w.contains n then .ok (.int n) else .error (.data (.outOfRange n w))
  | .integer w, j => return .error (Decode.mismatch j (.integer w.name))
  | .text, j => return Value.text <$> Decode.text j
  | .kind, j => return (fun k => Value.text k.name) <$> Decode.kind j
  | .cause, j => do
    match Record.ofJson room j with
    | .error e => return .error e
    | .ok record => return .ok (.cause (← record.raise))
  | .option _, .null => return .ok .none
  | .option s, j => do return Value.some <$> (← s.ofJson room j)
  | .list s, .array js =>
    match room with
    | 0 => return .error .shape
    | room + 1 => do return Value.list <$> (← Decode.items (s.ofJson room) js)
  | .list _, j => return .error (Decode.mismatch j .sequence)
  | .attempt s, j =>
    match Variant.ofJson room ["Success", "Failure"] j with
    | .error e => return .error e
    | .ok (.bare _) => return .error (.data (.mismatch ⟨.bareVariant, .holdingVariant⟩))
    | .ok (.holding name value room isAlone) => do
      if name == "Success" then
        return Decode.only isAlone (Value.success <$> (← s.ofJson room value))
      else return Decode.only isAlone (← Decode.failure room value)
  | .maybe s, j =>
    match Variant.ofJson room ["Some", "None"] j with
    | .error e => return .error e
    | .ok (.bare name) =>
      return if name == "None" then .ok .absent
        else .error (.data (.mismatch ⟨.bareVariant, .holdingVariant⟩))
    | .ok (.holding name value room isAlone) => do
      if name == "Some" then
        return Decode.only isAlone (Value.present <$> (← s.ofJson room value))
      else return Decode.only isAlone ((fun _ => Value.absent) <$> Decode.unit value)

namespace Schema

/-- How many groups within each other are looked into. -/
def room : Nat := 127

/-- Reads symbols as a schema. What is no document is refused as such, after the causes before its
fault were judged. -/
def decodeSymbols (s : Schema) (symbols : List Json.Symbol) :
    Run σ (Except DecodeError Value) := do
  let reading := Json.read symbols
  let standing := reading.standing room
  match ← s.ofJson room reading.tree with
  | .ok v => return if reading.isWhole then .ok v else .error (.under standing .malformed)
  | .error e => return .error (e.under standing)

/-- Reads a text as a schema. -/
def decode (s : Schema) (text : String) : Run σ (Except DecodeError Value) :=
  s.decodeSymbols (Json.Symbol.ofText text)

/-- Reads bytes as a schema. -/
def decodeBytes (s : Schema) (bytes : ByteArray) : Run σ (Except DecodeError Value) :=
  s.decodeSymbols (Json.Symbol.ofBytes bytes)

end Schema

end Fallible
