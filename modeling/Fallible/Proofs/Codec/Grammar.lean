import Fallible.Proofs.Codec.Reading
import Fallible.Proofs.Json.RoundTrip

/-!
# The grammar of documents

Which documents are accepted, and as what. A cause is spelled by an object or by an array. In the
object the key `kind` stands once, with a text, and the keys `message` and `wrapped` stand at most
once, with null or with what they name; no other key matters, and neither does the order. The array
gives the same fields by their places. An attempt and a maybe are spelled by an object with one key,
which tells the branch, or by a name alone.

Reading goes through a document once and stops at the first thing that is wrong, so that a field is
read when its key is met. The grammar says nothing of this: it looks at what stands under each key.

## Main definitions

* `Json.valuesAt`: what stands under a key of an object
* `Record.Spells`: the grammar of causes
* `Json.Respelled`: spelling the same in another way

## Main results

* `Record.ofJson_eq_ok_iff`: the records that are read are those that are spelled
* `Record.Spells.respelled`: another spelling spells the same
* `Schema.ofJson_eq_ok_of_le`: room that is not needed does not matter
* `Schema.decodeBytes_exact`: whole documents
-/

namespace Fallible

variable {σ : Type}

/-! ## Keys -/

namespace Json

variable {key : String} {members others : List (Option String × Json)}

/-- What stands under a key of an object, in order. -/
def valuesAt (key : String) (members : List (Option String × Json)) : List Json :=
  (members.filter (·.1 == some key)).map Prod.snd

theorem valuesAt_append (key : String) (members others : List (Option String × Json)) :
    valuesAt key (members ++ others) = valuesAt key members ++ valuesAt key others := by
  rw [valuesAt, List.filter_append, List.map_append, ← valuesAt, ← valuesAt]

theorem mem_of_mem_valuesAt {j : Json} (h : j ∈ valuesAt key members) :
    ∃ m ∈ members, m.2 = j := by
  obtain ⟨m, hm, rfl⟩ := List.mem_map.mp h
  exact ⟨m, (List.mem_filter.mp hm).1, rfl⟩

/-- A member alone stands at its own key. -/
theorem valuesAt_singleton {other : String} {value : Json} :
    valuesAt key [(some other, value)] = if other = key then [value] else [] := by
  by_cases h : other = key <;> simp [valuesAt, h]

section Insert

variable {before later : List (Option String × Json)} {value : Json}

/-- A member stands among the values at its own key. -/
theorem valuesAt_insert_self : valuesAt key (before ++ (some key, value) :: later) =
    valuesAt key before ++ value :: valuesAt key later := by
  simp [valuesAt]

/-- A member does not matter at any other key. -/
theorem valuesAt_insert_of_ne {other : String} (h : other ≠ key) :
    valuesAt key (before ++ (some other, value) :: later) = valuesAt key (before ++ later) := by
  simp [valuesAt, h]

end Insert

theorem valuesAt_perm (h : members.Perm others) (key : String) :
    (valuesAt key members).Perm (valuesAt key others) :=
  (h.filter _).map _

end Json

/-! ## Whole documents -/

namespace Json

theorem Standing.andThen_eq_whole_iff {s next : Standing} :
    s.andThen next = .whole ↔ s = .whole ∧ next = .whole := by
  cases s <;> simp [Standing.andThen]

theorem itemsStanding_eq_whole_iff {room : Nat} {items : List Json} :
    itemsStanding room items = .whole ↔ ∀ j ∈ items, j.standing room = .whole := by
  induction items with
  | nil => simp [itemsStanding]
  | cons j items ih => rw [itemsStanding, Standing.andThen_eq_whole_iff, ih, List.forall_mem_cons]

theorem membersStanding_eq_whole_iff {room : Nat} {members : List (Option String × Json)} :
    membersStanding room members = .whole ↔
      ∀ m ∈ members, m.1.isSome = true ∧ m.2.standing room = .whole := by
  induction members with
  | nil => simp [membersStanding]
  | cons m members ih =>
    rw [membersStanding, Standing.andThen_eq_whole_iff, Standing.andThen_eq_whole_iff, ih,
      List.forall_mem_cons]
    cases m.1.isSome <;> simp [Standing.ofBool]

/-- Items of a whole array are whole in one room less. -/
theorem standing_array_eq_whole_iff {room : Nat} {items : List Json} :
    (array items).standing room = .whole ↔
      ∃ inner, room = inner + 1 ∧ ∀ j ∈ items, j.standing inner = .whole := by
  rw [standing]
  cases room with
  | zero => simp
  | succ inner => simp [itemsStanding_eq_whole_iff]

theorem standing_object_eq_whole_iff {room : Nat} {members : List (Option String × Json)} :
    (object members).standing room = .whole ↔ ∃ inner, room = inner + 1 ∧
      ∀ m ∈ members, m.1.isSome = true ∧ m.2.standing inner = .whole := by
  rw [standing]
  cases room with
  | zero => simp
  | succ inner => simp [membersStanding_eq_whole_iff]

/-- A whole document is whole in any room that is larger. -/
theorem standing_eq_whole_of_le {room larger : Nat} (hle : room ≤ larger) {j : Json}
    (h : j.standing room = .whole) : j.standing larger = .whole := by
  induction room generalizing larger j with
  | zero =>
    cases j with
    | array items =>
      obtain ⟨inner, hinner, -⟩ := standing_array_eq_whole_iff.mp h
      cases hinner
    | object members =>
      obtain ⟨inner, hinner, -⟩ := standing_object_eq_whole_iff.mp h
      cases hinner
    | _ => exact h
  | succ room ih =>
    obtain ⟨larger, rfl⟩ : ∃ n, larger = n + 1 := ⟨larger - 1, by omega⟩
    have hle' : room ≤ larger := Nat.le_of_succ_le_succ hle
    cases j with
    | array items =>
      obtain ⟨inner, hinner, hitems⟩ := standing_array_eq_whole_iff.mp h
      cases hinner
      exact standing_array_eq_whole_iff.mpr ⟨larger, rfl, fun j hj => ih hle' (hitems j hj)⟩
    | object members =>
      obtain ⟨inner, hinner, hmembers⟩ := standing_object_eq_whole_iff.mp h
      cases hinner
      exact standing_object_eq_whole_iff.mpr
        ⟨larger, rfl, fun m hm => ⟨(hmembers m hm).1, ih hle' (hmembers m hm).2⟩⟩
    | _ => exact h

end Json

namespace Record

open Json (valuesAt)

/-! ## The grammar -/

/-- The fields of a record, in the order of their places in an array. -/
def fieldNames : List String :=
  ["kind", "message", "wrapped"]

/-- Items of an array as members of an object: each under the field whose place it has. -/
def positional (items : List Json) : List (Option String × Json) :=
  (fieldNames.map some).zip items

/-- What stands under `message` spells a message, or that there is none. -/
inductive SpellsMessage : List Json → Option String → Prop where
  | missing : SpellsMessage [] none
  | null : SpellsMessage [.null] none
  | text (message : String) : SpellsMessage [.text message] (some message)

mutual

/-- **The grammar of causes**: a tree spells a record. -/
inductive Spells : Json → Record → Prop where
  /-- Members under any other key do not matter. -/
  | object {members : List (Option String × Json)} {name : String} {message : Option String}
      {wrapped : List (Kind × Option String)}
      (hkind : valuesAt "kind" members = [.text name])
      (hmessage : SpellsMessage (valuesAt "message" members) message)
      (hwrapped : SpellsWrapped (valuesAt "wrapped" members) wrapped) :
      Spells (.object members) ⟨Kind.ofName name, message, wrapped⟩
  | array {items : List Json} {r : Record} (hlength : items.length ≤ 3)
      (h : Spells (.object (positional items)) r) : Spells (.array items) r

/-- What stands under `wrapped` spells what a cause wraps, or that it wraps nothing. -/
inductive SpellsWrapped : List Json → List (Kind × Option String) → Prop where
  | missing : SpellsWrapped [] []
  | null : SpellsWrapped [.null] []
  | cause {j : Json} {r : Record} (h : Spells j r) : SpellsWrapped [j] r.chain

end

/-! ## Fields -/

/-- A field takes what stands under its key: one value at most, and only if it has none. -/
inductive Takes {α : Type} (read : Json → Except DecodeError α) :
    List Json → Option α → Option α → Prop where
  | none (held : Option α) : Takes read [] held held
  | one {j : Json} {a : α} (h : read j = .ok a) : Takes read [j] .none (.some a)

section Fields

variable {α : Type} {read : Json → Except DecodeError α} {js ks : List Json} {j : Json}
  {held held' : Option α}

theorem takes_nil_iff : Takes read [] held held' ↔ held' = held := by
  constructor
  · rintro ⟨⟩
    rfl
  · rintro rfl
    exact .none _

theorem takes_singleton_iff :
    Takes read [j] held held' ↔ held.isSome = false ∧ ∃ a, read j = .ok a ∧ held' = some a := by
  constructor
  · rintro (_ | h)
    exact ⟨rfl, _, h, rfl⟩
  · rintro ⟨hn, a, h, rfl⟩
    cases held with
    | none => exact .one h
    | some b => cases hn

/-- A field takes values one after the other. -/
theorem takes_append_iff :
    Takes read (js ++ ks) held held' ↔
      ∃ mid, Takes read js held mid ∧ Takes read ks mid held' := by
  constructor
  · intro h
    cases js with
    | nil => exact ⟨held, .none _, h⟩
    | cons j js =>
      -- the first value is the only one
      rw [List.cons_append] at h
      generalize hl : j :: (js ++ ks) = l at h
      cases h with
      | none => cases hl
      | one h =>
        obtain ⟨rfl, ht⟩ := List.cons.inj hl
        obtain ⟨rfl, rfl⟩ := List.append_eq_nil_iff.mp ht
        exact ⟨_, .one h, .none _⟩
  · rintro ⟨mid, hjs, hks⟩
    cases hjs with
    | none => exact hks
    | one h =>
      cases hks
      exact .one h

end Fields

section Members

variable {read : Json → Except DecodeError Record} {f g : Fields}
  {members : List (Option String × Json)} {r : Record}

/-- Fields take what stands under their keys, and every key names a text. -/
structure Fields.Take (read : Json → Except DecodeError Record)
    (members : List (Option String × Json)) (f g : Fields) : Prop where
  named : ∀ m ∈ members, m.1.isSome = true
  kind : Takes Decode.kind (valuesAt "kind" members) f.kind g.kind
  message : Takes Decode.text? (valuesAt "message" members) f.message g.message
  wrapped : Takes (wrapped? read) (valuesAt "wrapped" members) f.wrapped g.wrapped

/-- Where a field may be read, and what that makes of the fields. -/
theorem Fields.read_eq_ok_iff {α : Type} {held : Option α} {e : DecodeError}
    {x : Except DecodeError α} {set : α → Fields} :
    (if held.isSome then .error e else set <$> x) = .ok g ↔
      held.isSome = false ∧ ∃ a, x = .ok a ∧ set a = g := by
  cases held with
  | none => simp [Decode.map_eq_ok_iff]
  | some a => simp

/-- **One more member** is taken by the field whose key it has, if it is the key of any. -/
theorem Fields.add_eq_ok_iff (m : Option String × Json) :
    f.add read m = .ok g ↔ Fields.Take read [m] f g := by
  obtain ⟨fk, fm, fw⟩ := f
  obtain ⟨gk, gm, gw⟩ := g
  obtain ⟨_ | key, j⟩ := m
  · constructor
    · rintro ⟨⟩
    · intro h
      exact absurd (h.named _ (List.mem_singleton_self _)) (by simp)
  · have hiff : Fields.Take read [(some key, j)] ⟨fk, fm, fw⟩ ⟨gk, gm, gw⟩ ↔
        Takes Decode.kind (valuesAt "kind" [(some key, j)]) fk gk ∧
        Takes Decode.text? (valuesAt "message" [(some key, j)]) fm gm ∧
        Takes (wrapped? read) (valuesAt "wrapped" [(some key, j)]) fw gw :=
      ⟨fun h => ⟨h.kind, h.message, h.wrapped⟩, fun h => ⟨by simp, h.1, h.2.1, h.2.2⟩⟩
    rw [hiff]
    simp only [Json.valuesAt_singleton]
    by_cases hkey : key ∈ fieldNames
    · simp only [fieldNames, List.mem_cons, List.not_mem_nil, or_false] at hkey
      -- only the field whose key it is has anything to take
      obtain rfl | rfl | rfl := hkey
      all_goals
        simp only [Fields.add, Fields.read_eq_ok_iff, String.reduceEq, if_true, if_false,
          takes_nil_iff, takes_singleton_iff, Fields.mk.injEq]
        grind
    · simp only [fieldNames, List.mem_cons, List.not_mem_nil, or_false, not_or] at hkey
      obtain ⟨hk, hm, hw⟩ := hkey
      simp only [hk, hm, hw, if_false, takes_nil_iff]
      rw [Fields.add, Except.ok.injEq, Fields.mk.injEq] <;> grind

theorem Fields.take_nil_iff : Fields.Take read [] f g ↔ f = g := by
  constructor
  · rintro ⟨-, hk, hm, hw⟩
    obtain ⟨gk, gm, gw⟩ := g
    cases takes_nil_iff.mp hk
    cases takes_nil_iff.mp hm
    cases takes_nil_iff.mp hw
    rfl
  · rintro rfl
    exact ⟨fun _ hm => (nomatch hm), .none _, .none _, .none _⟩

/-- Members are taken one after the other. -/
theorem Fields.take_cons_iff (m : Option String × Json) :
    Fields.Take read (m :: members) f g ↔
      ∃ mid, Fields.Take read [m] f mid ∧ Fields.Take read members mid g := by
  have hv (key : String) :
      valuesAt key (m :: members) = valuesAt key [m] ++ valuesAt key members :=
    Json.valuesAt_append key [m] members
  constructor
  · rintro ⟨hnamed, hk, hm, hw⟩
    rw [hv, takes_append_iff] at hk hm hw
    obtain ⟨k, hk₁, hk₂⟩ := hk
    obtain ⟨message, hm₁, hm₂⟩ := hm
    obtain ⟨w, hw₁, hw₂⟩ := hw
    rw [List.forall_mem_cons] at hnamed
    exact ⟨⟨k, message, w⟩, ⟨List.forall_mem_singleton.mpr hnamed.1, hk₁, hm₁, hw₁⟩,
      ⟨hnamed.2, hk₂, hm₂, hw₂⟩⟩
  · rintro ⟨mid, h₁, h₂⟩
    have hm := h₁.named m (List.mem_singleton_self m)
    refine ⟨List.forall_mem_cons.mpr ⟨hm, h₂.named⟩, ?_, ?_, ?_⟩
    · rw [hv, takes_append_iff]
      exact ⟨_, h₁.kind, h₂.kind⟩
    · rw [hv, takes_append_iff]
      exact ⟨_, h₁.message, h₂.message⟩
    · rw [hv, takes_append_iff]
      exact ⟨_, h₁.wrapped, h₂.wrapped⟩

/-- **The members of an object** are taken by the fields whose keys they have. -/
theorem Fields.foldlM_add_eq_ok_iff :
    members.foldlM (Fields.add read) f = .ok g ↔ Fields.Take read members f g := by
  induction members generalizing f with
  | nil =>
    rw [Fields.take_nil_iff, List.foldlM_nil]
    exact Except.ok.injEq f g ▸ Iff.rfl
  | cons m members ih =>
    rw [List.foldlM_cons, Decode.bind_eq_ok_iff, Fields.take_cons_iff]
    exact exists_congr fun mid => and_congr (Fields.add_eq_ok_iff m) ih

end Members

/-! ## What is read is what is spelled -/

section Spelling

variable {read : Json → Except DecodeError Record} {js : List Json} {j : Json} {k : Kind}
  {message : Option String} {wrapped : List (Kind × Option String)} {r : Record}

theorem takes_kind_iff :
    Takes Decode.kind js none (some k) ↔ ∃ name, js = [.text name] ∧ Kind.ofName name = k := by
  constructor
  · rintro (_ | h)
    obtain ⟨name, hname, rfl⟩ := Decode.map_eq_ok_iff.mp h
    refine ⟨name, ?_, rfl⟩
    unfold Decode.text at hname
    split at hname <;> cases hname
    rfl
  · rintro ⟨name, rfl, rfl⟩
    exact .one rfl

theorem takes_message_iff :
    (∃ o, Takes Decode.text? js none o ∧ o.join = message) ↔ SpellsMessage js message := by
  constructor
  · rintro ⟨o, _ | h, rfl⟩
    · exact .missing
    · unfold Decode.text? at h
      split at h
      · cases h
        exact .null
      · obtain ⟨text, ht, rfl⟩ := Decode.map_eq_ok_iff.mp h
        unfold Decode.text at ht
        split at ht <;> cases ht
        exact .text text
  · rintro (_ | _ | text)
    · exact ⟨none, .none _, rfl⟩
    · exact ⟨some none, .one rfl, rfl⟩
    · exact ⟨some (some text), .one rfl, rfl⟩

/-- Only groups spell records. -/
theorem Spells.ne_null (h : Spells j r) : j ≠ .null := by
  rintro rfl
  cases h

theorem wrapped?_of_ne_null (hj : j ≠ .null) : wrapped? read j = some <$> read j := by
  cases j with
  | null => exact absurd rfl hj
  | _ => rfl

theorem takes_wrapped_iff (hread : ∀ j ∈ js, ∀ r, read j = .ok r ↔ Spells j r) :
    (∃ o, Takes (wrapped? read) js none o ∧ (o.join.map chain).getD [] = wrapped) ↔
      SpellsWrapped js wrapped := by
  constructor
  · rintro ⟨o, _ | h, rfl⟩
    · exact .missing
    · unfold wrapped? at h
      split at h
      · cases h
        exact .null
      · obtain ⟨r, hr, rfl⟩ := Decode.map_eq_ok_iff.mp h
        exact .cause ((hread _ (List.mem_singleton_self _) r).mp hr)
  · rintro (_ | _ | h)
    · exact ⟨none, .none _, rfl⟩
    · exact ⟨some none, .one rfl, rfl⟩
    · rename_i j r
      refine ⟨some (some r), .one ?_, rfl⟩
      rw [wrapped?_of_ne_null h.ne_null, (hread j (List.mem_singleton_self j) r).mpr h]
      rfl

/-- **An object** spells what is read of it, if what stands in it does. -/
theorem object_eq_ok_iff {members : List (Option String × Json)}
    (hnamed : ∀ m ∈ members, m.1.isSome = true)
    (hread : ∀ m ∈ members, ∀ r, read m.2 = .ok r ↔ Spells m.2 r) :
    members.foldlM (Fields.add read) {} >>= Fields.finish = .ok r ↔
      Spells (.object members) r := by
  have hwrapped : ∀ j ∈ valuesAt "wrapped" members, ∀ r, read j = .ok r ↔ Spells j r := by
    intro j hj
    obtain ⟨m, hm, rfl⟩ := Json.mem_of_mem_valuesAt hj
    exact hread m hm
  rw [Decode.bind_eq_ok_iff]
  constructor
  · rintro ⟨f, hf, h⟩
    have ht := Fields.foldlM_add_eq_ok_iff.mp hf
    obtain ⟨_ | k, message, w⟩ := f
    · cases h
    · cases h
      obtain ⟨name, hn, rfl⟩ := takes_kind_iff.mp ht.kind
      exact .object hn (takes_message_iff.mp ⟨message, ht.message, rfl⟩)
        ((takes_wrapped_iff hwrapped).mp ⟨w, ht.wrapped, rfl⟩)
  · rintro ⟨hkind, hmessage, hwrapped'⟩
    obtain ⟨m, hm, rfl⟩ := takes_message_iff.mpr hmessage
    obtain ⟨w, hw, rfl⟩ := (takes_wrapped_iff hwrapped).mpr hwrapped'
    exact ⟨⟨some _, m, w⟩,
      Fields.foldlM_add_eq_ok_iff.mpr ⟨hnamed, takes_kind_iff.mpr ⟨_, hkind, rfl⟩, hm, hw⟩, rfl⟩

/-- The items of a short array are read like the members of an object. -/
theorem Fields.ofItems_eq {items : List Json} (hne : items ≠ []) (hlength : items.length ≤ 3) :
    Fields.ofItems read items = (positional items).foldlM (Fields.add read) {} := by
  rcases items with _ | ⟨k, _ | ⟨m, _ | ⟨w, _ | ⟨x, more⟩⟩⟩⟩
  case nil => exact absurd rfl hne
  case cons.cons.cons.cons =>
    simp only [List.length_cons] at hlength
    omega
  all_goals
    simp only [Fields.ofItems, positional, fieldNames, List.map_cons, List.zip_cons_cons,
      List.zip_nil_right, List.foldlM_cons, List.foldlM_nil, Fields.add]
  -- the items are read in the same order, up to the first that is wrong
  · cases Decode.kind k <;> rfl
  · cases Decode.kind k <;> cases Decode.text? m <;> rfl
  · cases Decode.kind k <;> cases Decode.text? m <;> cases wrapped? read w <;> rfl

theorem Fields.ofItems_ne_ok {items : List Json} (hlength : 3 < items.length) (f : Fields) :
    Fields.ofItems read items ≠ .ok f := by
  match items, hlength with
  | k :: m :: w :: x :: more, _ =>
    intro h
    obtain ⟨kind, -, h⟩ := Decode.bind_eq_ok_iff.mp h
    obtain ⟨message, -, h⟩ := Decode.bind_eq_ok_iff.mp h
    obtain ⟨wrapped, -, h⟩ := Decode.bind_eq_ok_iff.mp h
    cases h

/-- **An array** spells what is read of it, if its items do. -/
theorem array_eq_ok_iff {items : List Json}
    (hread : ∀ j ∈ items, ∀ r, read j = .ok r ↔ Spells j r) :
    Fields.ofItems read items >>= Fields.finish = .ok r ↔ Spells (.array items) r := by
  by_cases hne : items = []
  · subst hne
    constructor
    · rintro ⟨⟩
    · rintro (_ | ⟨-, ⟨hkind, -, -⟩⟩)
      cases hkind
  by_cases hlength : items.length ≤ 3
  · have hobject : Spells (.array items) r ↔ Spells (.object (positional items)) r :=
      ⟨fun h => by cases h; assumption, .array hlength⟩
    rw [Fields.ofItems_eq hne hlength, hobject]
    refine object_eq_ok_iff (fun m hm => ?_) fun m hm => ?_
    · obtain ⟨hkey, -⟩ := List.of_mem_zip (a := m.1) (b := m.2) hm
      obtain ⟨name, -, hname⟩ := List.mem_map.mp hkey
      rw [← hname]
      rfl
    · exact hread _ (List.of_mem_zip (a := m.1) (b := m.2) hm).2
  · rw [Decode.bind_eq_ok_iff]
    constructor
    · rintro ⟨f, hf, -⟩
      exact absurd hf (Fields.ofItems_ne_ok (by omega) f)
    · rintro (_ | ⟨h, -⟩)
      exact absurd h hlength

/-- **The records that are read** of whole documents are those that are spelled. -/
theorem ofJson_eq_ok_iff {room : Nat} (hj : j.standing room = .whole) :
    ofJson room j = .ok r ↔ Spells j r := by
  induction room generalizing j r with
  | zero =>
    cases j with
    | array items =>
      obtain ⟨inner, hinner, -⟩ := Json.standing_array_eq_whole_iff.mp hj
      cases hinner
    | object members =>
      obtain ⟨inner, hinner, -⟩ := Json.standing_object_eq_whole_iff.mp hj
      cases hinner
    | _ => exact iff_of_false (fun h => nomatch h) fun h => nomatch h
  | succ room ih =>
    cases j with
    | array items =>
      obtain ⟨inner, hinner, hitems⟩ := Json.standing_array_eq_whole_iff.mp hj
      cases hinner
      exact array_eq_ok_iff fun j hj r => ih (hitems j hj)
    | object members =>
      obtain ⟨inner, hinner, hmembers⟩ := Json.standing_object_eq_whole_iff.mp hj
      cases hinner
      exact object_eq_ok_iff (fun m hm => (hmembers m hm).1) fun m hm r => ih (hmembers m hm).2
    | _ => exact iff_of_false (fun h => nomatch h) fun h => nomatch h

end Spelling

end Record

/-! ## Spelling the same in another way -/

open Json (valuesAt)

/-- One tree spells a record in another way than the other: with the members of an object in another
order, with or without a member that is no field, by places or by names, or so in what it wraps. -/
inductive Json.Respelled : Json → Json → Prop where
  | permuted {members others : List (Option String × Json)} (h : members.Perm others) :
      Respelled (.object members) (.object others)
  | unknown {before later : List (Option String × Json)} {key : String} {value : Json}
      (h : key ∉ Record.fieldNames) :
      Respelled (.object (before ++ (some key, value) :: later)) (.object (before ++ later))
  | positional {items : List Json} (h : items.length ≤ 3) :
      Respelled (.array items) (.object (Record.positional items))
  | wrapped {before later : List (Option String × Json)} {j k : Json} (h : Respelled j k) :
      Respelled (.object (before ++ (some "wrapped", j) :: later))
        (.object (before ++ (some "wrapped", k) :: later))
  | refl (j : Json) : Respelled j j
  | symm {j k : Json} (h : Respelled j k) : Respelled k j
  | trans {j k l : Json} (h : Respelled j k) (h' : Respelled k l) : Respelled j l

namespace Record

section Respelling

variable {members others : List (Option String × Json)} {js ks : List Json} {j k : Json}
  {message : Option String} {wrapped : List (Kind × Option String)} {r : Record}

theorem SpellsMessage.perm (h : js.Perm ks) (hjs : SpellsMessage js message) :
    SpellsMessage ks message := by
  cases hjs with
  | missing => exact List.nil_perm.mp h ▸ .missing
  | null => exact List.singleton_perm.mp h ▸ .null
  | text message => exact List.singleton_perm.mp h ▸ .text message

theorem SpellsWrapped.perm (h : js.Perm ks) (hjs : SpellsWrapped js wrapped) :
    SpellsWrapped ks wrapped := by
  cases hjs with
  | missing => exact List.nil_perm.mp h ▸ .missing
  | null => exact List.singleton_perm.mp h ▸ .null
  | cause hj => exact List.singleton_perm.mp h ▸ .cause hj

/-- The order of members does not matter, nor does anything but what stands under the fields. -/
theorem Spells.of_valuesAt_perm
    (h : ∀ name ∈ fieldNames, (valuesAt name members).Perm (valuesAt name others))
    (hm : Spells (.object members) r) : Spells (.object others) r := by
  obtain ⟨hkind, hmessage, hwrapped⟩ := hm
  refine .object ?_ (hmessage.perm (h _ (by simp [fieldNames])))
    (hwrapped.perm (h _ (by simp [fieldNames])))
  have hk := h "kind" (by simp [fieldNames])
  rw [hkind] at hk
  exact (List.singleton_perm.mp hk).symm

/-- What stands under `wrapped` may be replaced by what spells the same. -/
theorem SpellsWrapped.replace (hnull : j = .null → k = .null) (h : ∀ r, Spells j r → Spells k r)
    (hw : SpellsWrapped (js ++ j :: ks) wrapped) : SpellsWrapped (js ++ k :: ks) wrapped := by
  generalize hl : js ++ j :: ks = l at hw
  cases hw with
  | missing => simp at hl
  | null =>
    -- there is only one value, and that is the one that is replaced
    obtain ⟨rfl, hl⟩ | ⟨-, hl⟩ := List.append_eq_singleton_iff.mp hl <;> cases hl
    rw [hnull rfl]
    exact .null
  | cause hj =>
    obtain ⟨rfl, hl⟩ | ⟨-, hl⟩ := List.append_eq_singleton_iff.mp hl <;> cases hl
    exact .cause (h _ hj)

theorem Spells.replace {before later : List (Option String × Json)} (hnull : j = .null → k = .null)
    (h : ∀ r, Spells j r → Spells k r)
    (hj : Spells (.object (before ++ (some "wrapped", j) :: later)) r) :
    Spells (.object (before ++ (some "wrapped", k) :: later)) r := by
  have other {name : String} (hname : "wrapped" ≠ name) (value : Json) :
      valuesAt name (before ++ (some "wrapped", value) :: later) =
        valuesAt name (before ++ later) :=
    Json.valuesAt_insert_of_ne hname
  obtain ⟨hkind, hmessage, hwrapped⟩ := hj
  rw [other (by decide)] at hkind hmessage
  rw [Json.valuesAt_insert_self] at hwrapped
  refine .object ?_ ?_ ?_
  · rw [other (by decide), hkind]
  · rw [other (by decide)]
    exact hmessage
  · rw [Json.valuesAt_insert_self]
    exact hwrapped.replace hnull h

/-- **Another spelling** spells the same. -/
theorem Spells.respelled (h : j.Respelled k) :
    (j = .null ↔ k = .null) ∧ ∀ r, Spells j r ↔ Spells k r := by
  induction h with
  | permuted h =>
    refine ⟨by simp, fun r => ⟨?_, ?_⟩⟩
    · exact .of_valuesAt_perm fun name _ => Json.valuesAt_perm h name
    · exact .of_valuesAt_perm fun name _ => Json.valuesAt_perm h.symm name
  | @unknown before later key value h =>
    have hv : ∀ name ∈ fieldNames, valuesAt name (before ++ (some key, value) :: later) =
        valuesAt name (before ++ later) :=
      fun name hn => Json.valuesAt_insert_of_ne fun he => h (he ▸ hn)
    refine ⟨by simp, fun r => ⟨?_, ?_⟩⟩
    · exact .of_valuesAt_perm fun name hn => .of_eq (hv name hn)
    · exact .of_valuesAt_perm fun name hn => .of_eq (hv name hn).symm
  | positional h =>
    refine ⟨by simp, fun r => ⟨fun hr => ?_, .array h⟩⟩
    cases hr
    assumption
  | wrapped h ih =>
    refine ⟨by simp, fun r => ⟨?_, ?_⟩⟩
    · exact .replace ih.1.mp fun r => (ih.2 r).mp
    · exact .replace ih.1.mpr fun r => (ih.2 r).mpr
  | refl j => exact ⟨Iff.rfl, fun _ => Iff.rfl⟩
  | symm h ih => exact ⟨ih.1.symm, fun r => (ih.2 r).symm⟩
  | trans h h' ih ih' => exact ⟨ih.1.trans ih'.1, fun r => (ih.2 r).trans (ih'.2 r)⟩

end Respelling

end Record

/-! ## Documents -/

section Documents

variable {T : Schema} {room larger : Nat} {j : Json} {v : Value} {s s' : Session σ}

theorem Json.standing_record_singleton_eq_whole_iff {name : String} {t : Json} :
    (Json.record [(name, t)]).standing room = .whole ↔
      ∃ inner, room = inner + 1 ∧ t.standing inner = .whole := by
  rw [Json.record, standing_object_eq_whole_iff]
  simp

/-- Room that a whole document does not need does not matter to its records. -/
theorem Record.ofJson_eq_ok_of_le (hle : room ≤ larger) (hj : j.standing room = .whole)
    {r : Record} : ofJson larger j = .ok r ↔ ofJson room j = .ok r := by
  rw [ofJson_eq_ok_iff hj, ofJson_eq_ok_iff (Json.standing_eq_whole_of_le hle hj)]

theorem Decode.failure_eq_ok_of_le (hle : room ≤ larger) (hj : j.standing room = .whole) :
    failure larger j s = (.returned (.ok v), s') ↔ failure room j s = (.returned (.ok v), s') := by
  simp only [failure_eq_ok_iff, Record.ofJson_eq_ok_of_le hle hj]

theorem Decode.items_eq_ok_of_le {js : List Json} {vs : List Value}
    (h : ∀ j ∈ js, ∀ (v : Value) (s s' : Session σ),
      T.ofJson larger j s = (.returned (.ok v), s') ↔ T.ofJson room j s = (.returned (.ok v), s')) :
    items (T.ofJson larger) js s = (.returned (.ok vs), s') ↔
      items (T.ofJson room) js s = (.returned (.ok vs), s') := by
  induction js generalizing vs s with
  | nil => exact Iff.rfl
  | cons j js ih =>
    have hjs (vs : List Value) (s : Session σ) :=
      @ih s vs fun k hk => h k (List.mem_cons_of_mem j hk)
    simp only [items_cons_eq_ok_iff, h j List.mem_cons_self, hjs]

/-- **Room that a whole document does not need** does not matter. -/
theorem Schema.ofJson_eq_ok_of_le (hle : room ≤ larger) (hj : j.standing room = .whole) :
    T.ofJson larger j s = (.returned (.ok v), s') ↔
      T.ofJson room j s = (.returned (.ok v), s') := by
  -- only groups take room, and what stands in a group of a whole document is whole itself
  have inside {members : List (Option String × Json)} {less : Nat}
      (hm : ∀ m ∈ members, m.1.isSome = true ∧ m.2.standing less = .whole) {name : String}
      {t : Json} (he : Json.object members = .record [(name, t)]) : t.standing less = .whole := by
    cases he
    exact (hm _ (List.mem_singleton_self _)).2
  induction T generalizing room larger j v s s' with
  | unit | bool | text | kind | integer => cases j <;> exact Iff.rfl
  | cause => simp only [ofJson_cause_eq_ok_iff, Record.ofJson_eq_ok_of_le hle hj]
  | attempt T ih =>
    cases j with
    | object members =>
      obtain ⟨less, rfl, hm⟩ := Json.standing_object_eq_whole_iff.mp hj
      obtain ⟨inner, rfl⟩ : ∃ inner, larger = inner + 1 := ⟨larger - 1, by omega⟩
      have hless : less ≤ inner := Nat.le_of_succ_le_succ hle
      simp only [ofJson_attempt_eq_ok_iff, Nat.add_right_cancel_iff, exists_and_left,
        exists_eq_left']
      refine exists_congr fun t => or_congr ?_ ?_
      · refine and_congr_right fun he => ?_
        simp only [ih hless (inside hm he)]
      · exact and_congr_right fun he => Decode.failure_eq_ok_of_le hless (inside hm he)
    | string text => cases text <;> exact Iff.rfl
    | _ => exact Iff.rfl
  | maybe T ih =>
    cases j with
    | object members =>
      obtain ⟨less, rfl, hm⟩ := Json.standing_object_eq_whole_iff.mp hj
      obtain ⟨inner, rfl⟩ : ∃ inner, larger = inner + 1 := ⟨larger - 1, by omega⟩
      have hless : less ≤ inner := Nat.le_of_succ_le_succ hle
      simp only [ofJson_maybe_eq_ok_iff, Nat.add_right_cancel_iff, exists_and_left, exists_eq_left']
      refine or_congr (exists_congr fun t => and_congr_right fun he => ?_) (by simp)
      simp only [ih hless (inside hm he)]
    | string text => cases text <;> exact Iff.rfl
    | _ => exact Iff.rfl
  | list T ih =>
    cases j with
    | array js =>
      obtain ⟨less, rfl, hjs⟩ := Json.standing_array_eq_whole_iff.mp hj
      obtain ⟨inner, rfl⟩ : ∃ inner, larger = inner + 1 := ⟨larger - 1, by omega⟩
      have hless : less ≤ inner := Nat.le_of_succ_le_succ hle
      simp only [ofJson_list_eq_ok_iff, Nat.add_right_cancel_iff, exists_and_left,
        exists_eq_left', Json.array.injEq,
        Decode.items_eq_ok_of_le fun j hj v s s' => ih hless (hjs j hj)]
    | _ => exact Iff.rfl
  | option T ih => simp only [ofJson_option_eq_ok_iff, ih hle hj]

/-- **A whole tree of an attempt** holds a tree of a value, or spells a cause that is not fatal. -/
theorem Schema.ofJson_attempt_eq_ok_iff_of_whole (hj : j.standing room = .whole) :
    (attempt T).ofJson room j s = (.returned (.ok v), s') ↔
      (∃ t w, j = .record [("Success", t)] ∧
        T.ofJson room t s = (.returned (.ok w), s') ∧ v = .success w) ∨
      (∃ t r, j = .record [("Failure", t)] ∧ Record.Spells t r ∧
        s.inEffect.isFatal (r.causeFrom s.next) = false ∧ v = .failure ⟨r.causeFrom s.next⟩ ∧
        s' = { s with next := s.next + r.chain.length, classifier := some s.inEffect }) := by
  have inside {name : String} {t : Json} (he : j = .record [(name, t)]) :=
    Json.standing_record_singleton_eq_whole_iff.mp (he ▸ hj)
  simp only [ofJson_attempt_eq_ok_iff, Decode.failure_eq_ok_iff]
  constructor
  · rintro ⟨inner, t, rfl, ⟨he, w, hw, hv⟩ | ⟨he, r, hr, h⟩⟩
    · obtain ⟨_, ⟨⟩, ht⟩ := inside he
      exact .inl ⟨t, w, he, (ofJson_eq_ok_of_le (Nat.le_succ inner) ht).mpr hw, hv⟩
    · obtain ⟨_, ⟨⟩, ht⟩ := inside he
      exact .inr ⟨t, r, he, (Record.ofJson_eq_ok_iff ht).mp hr, h⟩
  · rintro (⟨t, w, he, hw, hv⟩ | ⟨t, r, he, hr, h⟩)
    · obtain ⟨inner, rfl, ht⟩ := inside he
      exact ⟨inner, t, rfl, .inl ⟨he, w, (ofJson_eq_ok_of_le (Nat.le_succ inner) ht).mp hw, hv⟩⟩
    · obtain ⟨inner, rfl, ht⟩ := inside he
      exact ⟨inner, t, rfl, .inr ⟨he, r, (Record.ofJson_eq_ok_iff ht).mpr hr, h⟩⟩

/-- **A whole tree of a maybe** holds a tree of a value, or says that there is none. -/
theorem Schema.ofJson_maybe_eq_ok_iff_of_whole (hj : j.standing room = .whole) :
    (maybe T).ofJson room j s = (.returned (.ok v), s') ↔
      (∃ t w, j = .record [("Some", t)] ∧
        T.ofJson room t s = (.returned (.ok w), s') ∧ v = .present w) ∨
      ((j = .text "None" ∨ j = .record [("None", .null)]) ∧ v = .absent ∧ s' = s) := by
  have inside {name : String} {t : Json} (he : j = .record [(name, t)]) :=
    Json.standing_record_singleton_eq_whole_iff.mp (he ▸ hj)
  rw [ofJson_maybe_eq_ok_iff]
  refine or_congr ⟨?_, ?_⟩ (and_congr_left fun _ => or_congr_right (and_iff_right_of_imp ?_))
  · rintro ⟨inner, t, w, rfl, he, hw, hv⟩
    obtain ⟨_, ⟨⟩, ht⟩ := inside he
    exact ⟨t, w, he, (ofJson_eq_ok_of_le (Nat.le_succ inner) ht).mpr hw, hv⟩
  · rintro ⟨t, w, he, hw, hv⟩
    obtain ⟨inner, rfl, ht⟩ := inside he
    exact ⟨inner, t, w, rfl, he, (ofJson_eq_ok_of_le (Nat.le_succ inner) ht).mp hw, hv⟩
  · rintro he
    obtain ⟨inner, rfl, -⟩ := inside he
    exact Nat.succ_ne_zero inner

/-- Bytes that are a whole document are accepted where their tree is read. -/
theorem Schema.decodeBytes_eq_ok_iff_of_whole {bytes : ByteArray}
    (h : (Json.read (Json.Symbol.ofBytes bytes)).standing room = .whole) :
    T.decodeBytes bytes s = (.returned (.ok v), s') ↔
      T.ofJson Schema.room (Json.read (Json.Symbol.ofBytes bytes)).tree s =
        (.returned (.ok v), s') := by
  rw [decodeBytes_eq_ok_iff]
  refine and_iff_right ?_
  have hsound := (Json.Standing.andThen_eq_whole_iff.mp h).2
  cases hw : (Json.read (Json.Symbol.ofBytes bytes)).isWhole with
  | true => rfl
  | false =>
    rw [hw] at hsound
    cases hsound

/-- **The grammar is accepted exactly.** Let bytes be a whole document, with groups nested no deeper
than there is room.

They are accepted as a cause if and only if their tree spells a record, and the value is the cause
that the record tells, with new conditions; so another spelling of the tree is accepted alike. They
are accepted as an attempt if and only if the tree is an object with the one key `Success` and a
tree of a value, or with the one key `Failure` and a tree that spells a cause which is not fatal;
and as a maybe if and only if it is an object with the one key `Some` and a tree of a value, the
name `None`, or an object with the one key `None` and null. -/
theorem Schema.decodeBytes_exact {bytes : ByteArray} (s s' : Session σ) (v : Value)
    (h : (Json.read (Json.Symbol.ofBytes bytes)).standing Schema.room = .whole) :
    let j := (Json.read (Json.Symbol.ofBytes bytes)).tree
    (cause.decodeBytes bytes s = (.returned (.ok v), s') ↔ ∃ r, Record.Spells j r ∧
      v = .cause (r.causeFrom s.next) ∧ s' = { s with next := s.next + r.chain.length }) ∧
    (∀ others : ByteArray,
      (Json.read (Json.Symbol.ofBytes others)).standing Schema.room = .whole →
      j.Respelled (Json.read (Json.Symbol.ofBytes others)).tree →
      (cause.decodeBytes bytes s = (.returned (.ok v), s') ↔
        cause.decodeBytes others s = (.returned (.ok v), s'))) ∧
    (∀ T : Schema, (attempt T).decodeBytes bytes s = (.returned (.ok v), s') ↔
      (∃ t w, j = .record [("Success", t)] ∧
        T.ofJson Schema.room t s = (.returned (.ok w), s') ∧ v = .success w) ∨
      (∃ t r, j = .record [("Failure", t)] ∧ Record.Spells t r ∧
        s.inEffect.isFatal (r.causeFrom s.next) = false ∧ v = .failure ⟨r.causeFrom s.next⟩ ∧
        s' = { s with next := s.next + r.chain.length, classifier := some s.inEffect })) ∧
    ∀ T : Schema, (maybe T).decodeBytes bytes s = (.returned (.ok v), s') ↔
      (∃ t w, j = .record [("Some", t)] ∧
        T.ofJson Schema.room t s = (.returned (.ok w), s') ∧ v = .present w) ∨
      ((j = .text "None" ∨ j = .record [("None", .null)]) ∧ v = .absent ∧ s' = s) := by
  intro j
  have hj : j.standing Schema.room = .whole := (Json.Standing.andThen_eq_whole_iff.mp h).1
  have hcause {bytes : ByteArray}
      (h : (Json.read (Json.Symbol.ofBytes bytes)).standing Schema.room = .whole) :
      cause.decodeBytes bytes s = (.returned (.ok v), s') ↔
        ∃ r, Record.Spells (Json.read (Json.Symbol.ofBytes bytes)).tree r ∧
          v = .cause (r.causeFrom s.next) ∧ s' = { s with next := s.next + r.chain.length } := by
    simp only [decodeBytes_eq_ok_iff_of_whole h, ofJson_cause_eq_ok_iff,
      Record.ofJson_eq_ok_iff (Json.Standing.andThen_eq_whole_iff.mp h).1]
  refine ⟨hcause h, fun others ho hr => ?_, fun T => ?_, fun T => ?_⟩
  · rw [hcause h, hcause ho]
    exact exists_congr fun r => and_congr_left' ((Record.Spells.respelled hr).2 r)
  · rw [decodeBytes_eq_ok_iff_of_whole h]
    exact ofJson_attempt_eq_ok_iff_of_whole hj
  · rw [decodeBytes_eq_ok_iff_of_whole h]
    exact ofJson_maybe_eq_ok_iff_of_whole hj

/-- A cause that is spelled by names, with a key that nobody knows, and by places. -/
theorem Schema.decodeBytes_exact_spellings :
    let named :=
      "\x7b\"x\":[],\"wrapped\":\x7b\"kind\":\"Parse\"\x7d,\"message\":null,\"kind\":\"Io\"\x7d"
    let placed := "[\"Io\",null,[\"Parse\"]]"
    let v : Value := .cause { condition := ⟨0, .io, none⟩, wrapped := [⟨1, .other "Parse", none⟩] }
    let s : Session Unit := Session.start ()
    let s' : Session Unit := { s with next := 2 }
    cause.decodeBytes named.toUTF8 s = (.returned (.ok v), s') ∧
      cause.decodeBytes placed.toUTF8 s = (.returned (.ok v), s') := by
  intro named placed v s s'
  have hnamed : Json.read (Json.Symbol.ofBytes named.toUTF8) =
      ⟨.object [(some "x", .array []), (some "wrapped", .object [(some "kind", .text "Parse")]),
        (some "message", .null), (some "kind", .text "Io")], true⟩ := by
    rw [Json.Symbol.ofBytes_toUTF8]
    dsimp only [named]
    cbv
  have hplaced : Json.read (Json.Symbol.ofBytes placed.toUTF8) =
      ⟨.array [.text "Io", .null, .array [.text "Parse"]], true⟩ := by
    rw [Json.Symbol.ofBytes_toUTF8]
    dsimp only [placed]
    cbv
  -- the key that nobody knows goes, and then what is wrapped and the rest are spelled by places
  have hr : (Json.read (Json.Symbol.ofBytes named.toUTF8)).tree.Respelled
      (Json.read (Json.Symbol.ofBytes placed.toUTF8)).tree := by
    rw [hnamed, hplaced]
    refine .trans (@Json.Respelled.unknown [] _ "x" _ (by decide)) ?_
    refine .trans (@Json.Respelled.wrapped [] _ _ (.array [.text "Parse"]) ?_) ?_
    · exact .symm (.positional (by decide))
    refine .trans (.permuted (List.reverse_perm _).symm) (.symm (.positional ?_))
    decide
  have hparse : Record.Spells (.object [(some "kind", .text "Parse")])
      ⟨.ofName "Parse", none, []⟩ :=
    .object rfl .missing .missing
  have hio : Record.Spells (Json.read (Json.Symbol.ofBytes named.toUTF8)).tree
      ⟨.ofName "Io", none, [(.ofName "Parse", none)]⟩ := by
    rw [hnamed]
    exact .object rfl .null (.cause hparse)
  obtain ⟨hread, hsame, -⟩ := Schema.decodeBytes_exact s s' v (by rw [hnamed]; rfl)
  have h := hread.mpr ⟨_, hio, rfl, rfl⟩
  exact ⟨h, (hsame _ (by rw [hplaced]; rfl) hr).mp h⟩

end Documents

end Fallible
