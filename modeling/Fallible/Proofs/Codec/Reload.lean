import Fallible.Proofs.Codec.RoundTrip

/-!
# Which failures are read back

Every captured failure is written, but not every one is read back as a failure that tells the same.
A kind travels as its name, so a kind that a caller defined by the name of a built-in one is read as
the built-in one, by which the failure may even be refused as fatal. And a chain of any length is
written, while a document is looked into only so deep. These are the only two ways to fail.

## Main definitions

* `Cause.reread`: the cause that is read where a cause was written

## Main results

* `Kind.ofName_name_iff`: the kinds that their names stand for, exactly
* `Schema.exists_decodeBytes_failure`: what is read where a failure was written
* `Schema.decodeBytes_failure_iff`: the failures that are read back with their kind and message
-/

namespace Fallible

variable {σ : Type}

/-! ## Names of kinds -/

namespace Kind

/-- **A kind is the one that its name stands for** exactly if it is not caller-defined by a built-in
name. -/
theorem ofName_name_iff {k : Kind} : ofName k.name = k ↔ ∀ b ∈ builtins, k ≠ .other b.name := by
  refine ⟨fun h b hb hk => ?_, ofName_name⟩
  -- the name of a built-in kind stands for that kind, which no caller defined
  have hbuiltin : ofName b.name = b :=
    ofName_name fun c _ => ne_other_of_mem_builtins hb c.name
  rw [hk, name, hbuiltin] at h
  exact ne_other_of_mem_builtins hb b.name h

end Kind

/-- Ordinary errors are non-fatal unless a policy says otherwise. -/
theorem Policy.isFatal_standard {k : Kind} (h : k.parent = some .exception) :
    Policy.standard.isFatal k = false := by
  have hk : Policy.standard.kinds = Policy.defaultKinds := by decide
  rw [Policy.isFatal, hk, Policy.defaultKinds]
  cases k <;> cases h <;> simp [Kind.isA, Kind.parent]

/-! ## Standing -/

namespace Json

theorem Standing.whole_ne_broken : Standing.whole ≠ .broken := by
  decide

theorem Standing.andThen_ne_broken {s next : Standing} (hs : s ≠ .broken) (hn : next ≠ .broken) :
    s.andThen next ≠ .broken := by
  cases s with
  | whole => exact hn
  | tooDeep => exact hs
  | broken => exact absurd rfl hs

theorem itemsStanding_ne_broken {room : Nat} {items : List Json}
    (h : ∀ j ∈ items, j.standing room ≠ .broken) : itemsStanding room items ≠ .broken := by
  induction items with
  | nil => exact Standing.whole_ne_broken
  | cons j items ih =>
    rw [itemsStanding]
    exact Standing.andThen_ne_broken (h j List.mem_cons_self)
      (ih fun k hk => h k (List.mem_cons_of_mem j hk))

theorem membersStanding_ne_broken {room : Nat} {members : List (String × Json)}
    (h : ∀ m ∈ members, m.2.standing room ≠ .broken) :
    membersStanding room (members.map fun (key, value) => (some key, value)) ≠ .broken := by
  induction members with
  | nil => exact Standing.whole_ne_broken
  | cons m members ih =>
    rw [List.map_cons, membersStanding]
    -- the key has a text, so the member stands as its value does
    have hm : (Standing.ofBool true).andThen (m.2.standing room) ≠ .broken := h m List.mem_cons_self
    exact Standing.andThen_ne_broken hm (ih fun k hk => h k (List.mem_cons_of_mem m hk))

/-- A tree that a document holds as it is may be nested too deep, but it is not broken. -/
theorem Plain.standing_ne_broken {j : Json} (hj : j.Plain) (room : Nat) :
    j.standing room ≠ .broken := by
  induction hj generalizing room with
  | null | bool | integer => rw [standing]; exact Standing.whole_ne_broken
  | text s => rw [Json.text, standing]; exact Standing.whole_ne_broken
  | array h ih =>
    rw [standing]
    split
    · decide
    · exact itemsStanding_ne_broken fun j hj => ih j hj _
  | record h ih =>
    rw [Json.record, standing]
    split
    · decide
    · exact membersStanding_ne_broken fun m hm => ih m hm _

end Json

/-- What else is wrong with a document counts where the document is not broken. -/
theorem DecodeError.under_of_ne_broken {standing : Json.Standing} {e : DecodeError}
    (hs : standing ≠ .broken) (he : e ≠ .malformed) : e.under standing = e := by
  cases standing with
  | broken => exact absurd rfl hs
  | whole | tooDeep =>
    cases e with
    | malformed => exact absurd rfl he
    | shape | data => rfl

/-- What a document is read as is what its tree is read as. -/
theorem Schema.decodeBytes_of_read {T : Schema} {bytes : ByteArray} {j : Json} {s s' : Session σ}
    {answer : Except DecodeError Value} (hb : Json.read (Json.Symbol.ofBytes bytes) = ⟨j, true⟩)
    (hj : j.Plain) (h : T.ofJson Schema.room j s = (.returned answer, s'))
    (ha : answer ≠ .error .malformed) : T.decodeBytes bytes s = (.returned answer, s') := by
  rw [decodeBytes, decodeSymbols, hb, Run.bind_of_returned _ h]
  cases answer with
  | ok v => rfl
  | error e =>
    -- what is wrong with a whole document is what counts
    have hstanding : (⟨j, true⟩ : Json.Reading).standing Schema.room ≠ .broken :=
      Json.Standing.andThen_ne_broken (hj.standing_ne_broken Schema.room)
        Json.Standing.whole_ne_broken
    have he : e ≠ .malformed := fun he => ha (congrArg Except.error he)
    simp only [DecodeError.under_of_ne_broken hstanding he]
    rfl

/-! ## Failures -/

/-- The cause that is read where a cause was written and `n` conditions were raised before: every
kind is read as its name. -/
def Cause.reread (n : Nat) (c : Cause) : Cause :=
  (Record.ofChain c.condition c.wrapped).causeFrom n

namespace Schema

/-- **What is read where a failure was written.** A failure always has a document. If its chain is
too long for the room that documents are looked into, the document is refused by its shape.
Otherwise every kind is read as its name, and the cause is judged anew by the classifier in
effect. -/
theorem exists_decodeBytes_failure (c : Cause) :
    ∃ text, (Value.failure ⟨c⟩).encode = .ok text ∧
      ∀ (T : Schema) (s : Session σ), (attempt T).decodeBytes text.toUTF8 s =
        if c.chain.length ≤ 126 then
          (.returned (if s.inEffect.isFatal (c.reread s.next)
            then .error (.data (.fatal (Captured.Refusal.mk (c.reread s.next)).message))
            else .ok (.failure ⟨c.reread s.next⟩)),
            { s with next := s.next + c.chain.length, classifier := some s.inEffect })
        else (.returned (.error .shape), s) := by
  obtain ⟨j, text, hj, htext, hread⟩ := (Describes.failure .unit ⟨c⟩).exists_encode
  rw [Value.toJson] at hj
  obtain rfl : .record [("Failure", c.toJson)] = j := Except.ok.inj hj
  refine ⟨text, htext, fun T s => ?_⟩
  have hplain : (Json.record [("Failure", c.toJson)]).Plain := c.plain_toJson.singleton
  -- the variant takes one group of the room, so 126 are left for the chain
  have hstep : ((attempt T).ofJson room (.record [("Failure", c.toJson)]) : Run σ _) =
      do return Decode.only true (← Decode.failure 126 c.toJson) := rfl
  by_cases hc : c.chain.length ≤ 126
  · have hroom : c.wrapped.length < 126 := hc
    have hfailure := Decode.failure_toJson_apply c hroom s
    rw [if_pos hc]
    refine decodeBytes_of_read hread hplain ?_ ?_
    · rw [hstep, Run.bind_of_returned _ hfailure, ← Cause.reread]
      cases s.inEffect.isFatal (c.reread s.next) <;> rfl
    · cases s.inEffect.isFatal (c.reread s.next) <;> simp
  · have hroom : 126 ≤ c.wrapped.length := Nat.le_of_not_lt hc
    have hfailure := Decode.failure_toJson_of_no_room c hroom s
    rw [if_neg hc]
    refine decodeBytes_of_read hread hplain ?_ (by simp)
    rw [hstep, Run.bind_of_returned _ hfailure]
    rfl

end Schema

section Reload

variable {T : Schema} {P : Policy} {c : Cause} {t : Attempt Value} {s s' r : Session σ}

/-- **Which failures are read back.** A failure that captured a cause under a policy always has a
document, and under the same policy reading it always comes to an end with an answer. The answer is
a failure of the same kind and message exactly if the kind is not caller-defined by the name of a
built-in one and the chain of the cause has at most 126 conditions. -/
theorem Schema.decodeBytes_failure_iff (hs : s.inEffect = P.classifier)
    (hc : Attempt.fail c s = (.returned t, s')) (hr : r.inEffect = P.classifier) :
    ∃ text answer r', (Value.ofAttempt t).encode = .ok text ∧
      (Schema.attempt T).decodeBytes text.toUTF8 r = (.returned answer, r') ∧
      ((∃ d, answer = .ok (.failure d) ∧ d.cause.kind = c.kind ∧ d.cause.message = c.message) ↔
        (∀ b ∈ Kind.builtins, c.kind ≠ .other b.name) ∧ c.chain.length ≤ 126) := by
  obtain ⟨rfl, hf⟩ := Attempt.eq_failure_of_fail hc
  obtain ⟨text, htext, hread⟩ := exists_decodeBytes_failure (σ := σ) c
  specialize hread T r
  by_cases hlength : c.chain.length ≤ 126
  · rw [if_pos hlength] at hread
    refine ⟨text, _, _, htext, hread, ?_⟩
    constructor
    · rintro ⟨d, hd, hk, -⟩
      -- a failure was read, so it was not refused as fatal, and its kind is the name's
      cases hfatal : r.inEffect.isFatal (c.reread r.next) with
      | true => rw [hfatal] at hd; cases hd
      | false =>
        rw [hfatal] at hd
        cases hd
        exact ⟨Kind.ofName_name_iff.mp hk, hlength⟩
    · rintro ⟨hk, -⟩
      -- a policy judges by the kind, which is read as it was
      have hkind : (c.reread r.next).kind = c.kind := Kind.ofName_name_iff.mpr hk
      have hfatal : r.inEffect.isFatal (c.reread r.next) = false := by
        rw [hr, ← hf, hs]
        show P.isFatal (c.reread r.next).kind = P.isFatal c.kind
        rw [hkind]
      refine ⟨⟨c.reread r.next⟩, ?_, hkind, rfl⟩
      rw [hfatal]
      rfl
  · rw [if_neg hlength] at hread
    refine ⟨text, _, _, htext, hread, ?_⟩
    constructor
    · rintro ⟨d, hd, -⟩
      cases hd
    · rintro ⟨-, h⟩
      exact absurd h hlength

/-- A failure of a caller-defined kind around a built-in one, under the policy that is in effect by
default: it is read back. -/
theorem Schema.decodeBytes_failure_parse :
    let c : Cause := {
      condition := ⟨0, .other "Parse", some "no digits"⟩
      wrapped := [⟨1, .io, none⟩] }
    let s : Session Unit := Session.start ()
    ∃ s' text d r', Attempt.fail c s = (.returned (.failure ⟨c⟩ : Attempt Value), s') ∧
      (Value.failure ⟨c⟩).encode = .ok text ∧
      (Schema.attempt .text).decodeBytes text.toUTF8 s' = (.returned (.ok (.failure d)), r') ∧
      d.cause.kind = .other "Parse" ∧ d.cause.message = some "no digits" := by
  intro c s
  have hs : s.inEffect = Policy.standard.classifier := rfl
  have hf : s.inEffect.isFatal c = false := Policy.isFatal_standard (k := c.kind) rfl
  have hc : Attempt.fail c s =
      (.returned (.failure ⟨c⟩ : Attempt Value), s.decided.reporting (.captured c)) :=
    Attempt.fail_of_not_fatal hf
  have hs' : (s.decided.reporting (.captured c)).inEffect = Policy.standard.classifier := rfl
  have h := Schema.decodeBytes_failure_iff (T := .text) hs hc hs'
  obtain ⟨text, answer, r', htext, hread, hiff⟩ := h
  obtain ⟨d, rfl, hk, hm⟩ := hiff.mpr ⟨by decide, by decide⟩
  exact ⟨_, text, d, r', hc, htext, hread, hk, hm⟩

/-- A failure of a kind that was defined by the name of a built-in one: it is read as a failure of
the built-in kind. -/
theorem Schema.decodeBytes_failure_named_io :
    let c : Cause := { condition := ⟨0, .other "Io", some "disk"⟩ }
    let s : Session Unit := Session.start ()
    ∃ s' text d r', Attempt.fail c s = (.returned (.failure ⟨c⟩ : Attempt Value), s') ∧
      (Value.failure ⟨c⟩).encode = .ok text ∧
      (Schema.attempt .text).decodeBytes text.toUTF8 s' = (.returned (.ok (.failure d)), r') ∧
      d.cause.kind = .io ∧ d.cause.kind ≠ c.kind := by
  intro c s
  have hf : s.inEffect.isFatal c = false := Policy.isFatal_standard (k := c.kind) rfl
  obtain ⟨text, htext, hread⟩ := exists_decodeBytes_failure (σ := Unit) c
  specialize hread .text (s.decided.reporting (.captured c))
  -- the cause is judged once more, by the built-in kind
  have hio : (s.decided.reporting (.captured c)).inEffect.isFatal (c.reread 0) = false :=
    Policy.isFatal_standard (k := .io) rfl
  have hnext : (s.decided.reporting (.captured c)).next = 0 := rfl
  rw [if_pos (by decide), hnext, hio] at hread
  exact ⟨_, text, ⟨c.reread 0⟩, _, Attempt.fail_of_not_fatal hf, htext, hread, rfl, by decide⟩

end Reload

end Fallible
