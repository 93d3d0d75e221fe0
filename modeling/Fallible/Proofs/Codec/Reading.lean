import Fallible.Proofs.Codec.Record

/-!
# What was read

A successful step of reading says what stood in the document and what was read of its parts: the
name and the content of a variant, and the items of an array, one after the other. For every schema
there is one statement of where its values are read, and as what.

## Main results

* `Variant.ofJson_eq_holding`: where a variant that holds something stands
* `Decode.items_cons_eq_ok_iff`: items that were read
* `Schema.ofJson_attempt_eq_ok_iff`, `Schema.ofJson_maybe_eq_ok_iff`: variants that were read
* `Schema.decodeBytes_eq_ok_iff`: bytes that were accepted
-/

namespace Fallible

variable {σ α β : Type}

namespace Decode

variable {ε : Type} {x : Except ε α} {f : α → β} {k : α → Except ε β} {b : β}

theorem bind_eq_ok_iff : x >>= k = .ok b ↔ ∃ a, x = .ok a ∧ k a = .ok b := by
  constructor
  · intro h
    cases x with
    | error e => cases h
    | ok a => exact ⟨a, rfl, h⟩
  · rintro ⟨a, rfl, h⟩
    exact h

theorem map_eq_ok_iff : f <$> x = .ok b ↔ ∃ a, x = .ok a ∧ f a = b := by
  rw [map_eq_pure_bind, bind_eq_ok_iff]
  simp only [pure, Except.pure, Except.ok.injEq]

theorem toOption_eq_some_iff {a : α} : x.toOption = some a ↔ x = .ok a := by
  cases x with
  | error e => exact ⟨nofun, nofun⟩
  | ok b => rw [Except.toOption, Option.some.injEq, Except.ok.injEq]

end Decode

namespace Variant

variable {room inner : Nat} {known : List String} {j value : Json} {name : String} {alone : Bool}

theorem check_eq_ok_iff {found : String} :
    ofJson.check known found = .ok name ↔ found = name ∧ name ∈ known := by
  rw [ofJson.check]
  by_cases h : found ∈ known
  · simp only [List.contains_iff_mem, h, if_true, Except.ok.injEq]
    exact ⟨fun he => ⟨he, he ▸ h⟩, And.left⟩
  · simp only [List.contains_iff_mem, h, if_false, reduceCtorEq, false_iff]
    rintro ⟨rfl, hn⟩
    exact h hn

/-- A variant that holds something is an object, and the first of its members tells which one it
is. -/
theorem ofJson_eq_holding (h : ofJson room known j = .ok (.holding name value inner alone)) :
    room = inner + 1 ∧ name ∈ known ∧
      ∃ more, j = .object ((some name, value) :: more) ∧ more.isEmpty = alone := by
  unfold ofJson at h
  split at h
  · cases h
  · cases h
  · obtain ⟨found, -, hf⟩ := Decode.map_eq_ok_iff.mp h
    cases hf
  · rename_i key v more
    split at h
    · cases h
    · split at h
      · cases h
      · obtain ⟨found, hc, hf⟩ := Decode.map_eq_ok_iff.mp h
        cases hf
        obtain ⟨rfl, hn⟩ := check_eq_ok_iff.mp hc
        exact ⟨rfl, hn, more, rfl, rfl⟩
  · cases h

/-- A bare variant is a text. -/
theorem ofJson_eq_bare (h : ofJson room known j = .ok (.bare name)) : j = .text name := by
  unfold ofJson at h
  split at h
  · cases h
  · cases h
  · obtain ⟨found, hc, hf⟩ := Decode.map_eq_ok_iff.mp h
    cases hf
    rw [(check_eq_ok_iff.mp hc).1, Json.text]
  · split at h
    · cases h
    · split at h
      · cases h
      · obtain ⟨found, -, hf⟩ := Decode.map_eq_ok_iff.mp h
        cases hf
  · cases h

end Variant

namespace Decode

variable {read : Json → Run σ (Except DecodeError Value)} {j : Json} {js : List Json}
  {vs : List Value} {s s' : Session σ}

/-- Items are read where the first one is read, and then the others. -/
theorem items_cons_eq_ok_iff :
    items read (j :: js) s = (.returned (.ok vs), s') ↔ ∃ v ws t,
      read j s = (.returned (.ok v), t) ∧ items read js t = (.returned (.ok ws), s') ∧
        vs = v :: ws := by
  rw [items, Run.bind_eq_returned_iff]
  constructor
  · rintro ⟨e | v, t, hr, h⟩
    · cases h
    · obtain ⟨e | ws, t', hi, h⟩ := Run.bind_eq_returned_iff.mp h <;> cases h
      exact ⟨v, ws, t, hr, hi, rfl⟩
  · rintro ⟨v, ws, t, hr, hi, rfl⟩
    exact ⟨.ok v, t, hr, Run.bind_eq_returned_iff.mpr ⟨.ok ws, s', hi, rfl⟩⟩

end Decode

/-! ## Schemas -/

section Schemas

variable {T : Schema} {room : Nat} {j : Json} {v : Value} {s s' : Session σ}

theorem Decode.only_eq_ok_iff {alone : Bool} {answer : Except DecodeError Value} :
    only alone answer = .ok v ↔ alone = true ∧ answer = .ok v := by
  rcases answer with e | w <;> cases alone <;> simp [only]

/-- A failure is read of a record, and its cause is not fatal. -/
theorem Decode.failure_eq_ok_iff :
    failure room j s = (.returned (.ok v), s') ↔ ∃ r, Record.ofJson room j = .ok r ∧
      s.inEffect.isFatal (r.causeFrom s.next) = false ∧ v = .failure ⟨r.causeFrom s.next⟩ ∧
      s' = { s with next := s.next + r.chain.length, classifier := some s.inEffect } := by
  rw [failure]
  cases Record.ofJson room j with
  | error e => simp [Run.pure_apply]
  | ok r =>
    have he : ({ s with next := s.next + r.chain.length } : Session σ).inEffect = s.inEffect := rfl
    simp only [Run.bind_apply, Record.raise_apply, Captured.ofCause_apply, he]
    constructor
    · intro h
      cases hf : s.inEffect.isFatal (r.causeFrom s.next) <;> rw [hf] at h <;> cases h
      exact ⟨r, rfl, hf, rfl, rfl⟩
    · rintro ⟨r', hr, hf, rfl, rfl⟩
      obtain rfl := Except.ok.inj hr
      rw [hf]
      rfl

theorem Schema.ofJson_cause_eq_ok_iff :
    Schema.cause.ofJson room j s = (.returned (.ok v), s') ↔ ∃ r, Record.ofJson room j = .ok r ∧
      v = .cause (r.causeFrom s.next) ∧ s' = { s with next := s.next + r.chain.length } := by
  rw [Schema.ofJson]
  cases Record.ofJson room j with
  | error e => simp [Run.pure_apply]
  | ok r =>
    simp only [Run.bind_apply, Record.raise_apply]
    constructor
    · intro h
      cases h
      exact ⟨r, rfl, rfl, rfl⟩
    · rintro ⟨r', hr, rfl, rfl⟩
      obtain rfl := Except.ok.inj hr
      rfl

theorem Decode.unit_eq_ok (h : unit j = .ok v) : j = .null := by
  cases j <;> cases h
  rfl

/-- **An attempt** is read of an object with one key, which tells the branch. -/
theorem Schema.ofJson_attempt_eq_ok_iff :
    (attempt T).ofJson room j s = (.returned (.ok v), s') ↔ ∃ inner t, room = inner + 1 ∧
      ((j = .record [("Success", t)] ∧
          ∃ w, T.ofJson inner t s = (.returned (.ok w), s') ∧ v = .success w) ∨
        (j = .record [("Failure", t)] ∧
          Decode.failure inner t s = (.returned (.ok v), s'))) := by
  constructor
  · intro h
    rw [Schema.ofJson] at h
    rcases hj : Variant.ofJson room ["Success", "Failure"] j with error | ⟨name⟩ |
      ⟨name, t, inner, alone⟩ <;> rw [hj] at h
    · cases h
    · cases h
    · obtain ⟨rfl, hn, more, rfl, ha⟩ := Variant.ofJson_eq_holding hj
      refine ⟨inner, t, rfl, ?_⟩
      simp only [List.mem_cons, List.not_mem_nil, or_false] at hn
      -- the branch is read, and then nothing may follow
      obtain rfl | rfl := hn
      · obtain ⟨answer, hr, ho⟩ := Run.bind_pure_eq_returned_iff.mp h
        obtain ⟨rfl, hv⟩ := Decode.only_eq_ok_iff.mp ho
        obtain ⟨w, rfl, rfl⟩ := Decode.map_eq_ok_iff.mp hv
        rw [List.isEmpty_iff.mp ha]
        exact .inl ⟨rfl, w, hr, rfl⟩
      · obtain ⟨answer, hr, ho⟩ := Run.bind_pure_eq_returned_iff.mp h
        obtain ⟨rfl, rfl⟩ := Decode.only_eq_ok_iff.mp ho
        rw [List.isEmpty_iff.mp ha]
        exact .inr ⟨rfl, hr⟩
  · rintro ⟨inner, t, rfl, ⟨rfl, w, h, rfl⟩ | ⟨rfl, h⟩⟩
    · exact Run.bind_pure_eq_returned_iff.mpr ⟨_, h, rfl⟩
    · exact Run.bind_pure_eq_returned_iff.mpr ⟨_, h, rfl⟩

/-- **A maybe** is read of an object with one key, which tells the branch, or of the name of
absence. -/
theorem Schema.ofJson_maybe_eq_ok_iff :
    (maybe T).ofJson room j s = (.returned (.ok v), s') ↔
      (∃ inner t w, room = inner + 1 ∧ j = .record [("Some", t)] ∧
        T.ofJson inner t s = (.returned (.ok w), s') ∧ v = .present w) ∨
      ((j = .text "None" ∨ room ≠ 0 ∧ j = .record [("None", .null)]) ∧ v = .absent ∧ s' = s) := by
  constructor
  · intro h
    rw [Schema.ofJson] at h
    rcases hj : Variant.ofJson room ["Some", "None"] j with error | ⟨name⟩ |
      ⟨name, t, inner, alone⟩ <;> rw [hj] at h
    · cases h
    · simp only at h
      split at h <;> cases h
      rename_i hname
      obtain rfl := beq_iff_eq.mp hname
      exact .inr ⟨.inl (Variant.ofJson_eq_bare hj), rfl, rfl⟩
    · obtain ⟨rfl, hn, more, rfl, ha⟩ := Variant.ofJson_eq_holding hj
      simp only [List.mem_cons, List.not_mem_nil, or_false] at hn
      obtain rfl | rfl := hn
      · obtain ⟨answer, hr, ho⟩ := Run.bind_pure_eq_returned_iff.mp h
        obtain ⟨rfl, hv⟩ := Decode.only_eq_ok_iff.mp ho
        obtain ⟨w, rfl, rfl⟩ := Decode.map_eq_ok_iff.mp hv
        rw [List.isEmpty_iff.mp ha]
        exact .inl ⟨inner, t, w, rfl, rfl, hr, rfl⟩
      · obtain ⟨ho, rfl⟩ := Run.pure_eq_returned_iff.mp h
        obtain ⟨rfl, hv⟩ := Decode.only_eq_ok_iff.mp ho
        obtain ⟨w, hw, rfl⟩ := Decode.map_eq_ok_iff.mp hv
        rw [List.isEmpty_iff.mp ha, Decode.unit_eq_ok hw]
        exact .inr ⟨.inr ⟨Nat.succ_ne_zero inner, rfl⟩, rfl, rfl⟩
  · rintro (⟨inner, t, w, rfl, rfl, h, rfl⟩ | ⟨rfl | ⟨hroom, rfl⟩, rfl, rfl⟩)
    · exact Run.bind_pure_eq_returned_iff.mpr ⟨_, h, rfl⟩
    · rfl
    · obtain ⟨inner, rfl⟩ := Nat.exists_eq_succ_of_ne_zero hroom
      rfl

theorem Schema.ofJson_option_of_ne_null (s : Schema) (room : Nat) {j : Json} (hj : j ≠ .null) :
    ((Schema.option s).ofJson room j : Run σ _) =
      do return Value.some <$> (← s.ofJson room j) := by
  cases j with
  | null => exact absurd rfl hj
  | _ => rfl

/-- **An option** is read of null, or of what the value in it is read of. -/
theorem Schema.ofJson_option_eq_ok_iff :
    (option T).ofJson room j s = (.returned (.ok v), s') ↔
      (j = .null ∧ v = .none ∧ s' = s) ∨
      (j ≠ .null ∧ ∃ w, T.ofJson room j s = (.returned (.ok w), s') ∧ v = .some w) := by
  by_cases hj : j = .null
  · subst hj
    constructor
    · intro h
      cases h
      exact .inl ⟨rfl, rfl, rfl⟩
    · rintro (⟨-, rfl, rfl⟩ | ⟨h, -⟩)
      · rfl
      · exact absurd rfl h
  · rw [ofJson_option_of_ne_null T room hj, Run.bind_pure_eq_returned_iff]
    constructor
    · rintro ⟨answer, hr, ho⟩
      obtain ⟨w, rfl, rfl⟩ := Decode.map_eq_ok_iff.mp ho
      exact .inr ⟨hj, w, hr, rfl⟩
    · rintro (⟨h, -⟩ | ⟨-, w, hr, rfl⟩)
      · exact absurd h hj
      · exact ⟨.ok w, hr, rfl⟩

/-- **A list** is read of an array, item by item. -/
theorem Schema.ofJson_list_eq_ok_iff :
    (list T).ofJson room j s = (.returned (.ok v), s') ↔ ∃ inner js vs, room = inner + 1 ∧
      j = .array js ∧ Decode.items (T.ofJson inner) js s = (.returned (.ok vs), s') ∧
      v = .list vs := by
  constructor
  · intro h
    cases j with
    | array js =>
      cases room with
      | zero => cases h
      | succ inner =>
        obtain ⟨answer, hr, ho⟩ := Run.bind_pure_eq_returned_iff.mp h
        obtain ⟨vs, rfl, rfl⟩ := Decode.map_eq_ok_iff.mp ho
        exact ⟨inner, js, vs, rfl, rfl, hr, rfl⟩
    | _ => cases h
  · rintro ⟨inner, js, vs, rfl, rfl, hr, rfl⟩
    exact Run.bind_pure_eq_returned_iff.mpr ⟨.ok vs, hr, rfl⟩

/-- Bytes are accepted where they are a whole document and its tree is read. -/
theorem Schema.decodeBytes_eq_ok_iff {bytes : ByteArray} :
    T.decodeBytes bytes s = (.returned (.ok v), s') ↔
      (Json.read (Json.Symbol.ofBytes bytes)).isWhole = true ∧
      T.ofJson Schema.room (Json.read (Json.Symbol.ofBytes bytes)).tree s =
        (.returned (.ok v), s') := by
  rw [decodeBytes, decodeSymbols, Run.bind_eq_returned_iff]
  constructor
  · rintro ⟨answer, t, hr, h⟩
    cases answer with
    | error e => cases h
    | ok w =>
      obtain ⟨hw, rfl⟩ := Run.pure_eq_returned_iff.mp h
      split at hw <;> cases hw
      rename_i hwhole
      exact ⟨hwhole, hr⟩
  · rintro ⟨hwhole, hr⟩
    refine ⟨_, _, hr, ?_⟩
    simp only [hwhole, if_true]
    rfl

end Schemas

end Fallible
