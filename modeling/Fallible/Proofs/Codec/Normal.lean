import Fallible.Proofs.Codec.Reading
import Fallible.Proofs.Codec.RoundTrip
import Fallible.Proofs.History.FirstWriter

/-!
# Documents have a normal form

A document may spell its value in more ways than one: a cause by an array or by an object with keys
that nobody knows, an absent message by null, the absence of a value by its name or by an object.
What is read of it is a value that is written in one way only, and this document is read under the
same policy as the same value with new causes. So writing what was read is lossless, and doing it
twice is doing it once.

## Main definitions

* `Record.Fits`, `Schema.Normal`: what can be read with so much room
* `Schema.ReadsNormal`: a schema as which only normal values are read

## Main results

* `Record.fits_of_ofJson`, `Schema.readsNormal`: what was read can be written and read again
* `Schema.Denotes.toJson_renew`: new causes are written like the old ones
* `Schema.decodeBytes_normal`: documents that are accepted
-/

namespace Fallible

variable {σ : Type}

/-! ## Records -/

namespace Record

/-- A record fits where there is room for so many conditions, and each kind is one that a name
stands for. -/
structure Fits (room : Nat) (r : Record) : Prop where
  length : r.chain.length ≤ room
  kinds : ∀ x ∈ r.chain, ∀ b ∈ Kind.builtins, x.1 ≠ .other b.name

/-- Fields fit where the kind is one that a name stands for, and what is wrapped fits. -/
structure Fields.Fit (room : Nat) (f : Fields) : Prop where
  kind : ∀ k, f.kind = some k → ∀ b ∈ Kind.builtins, k ≠ .other b.name
  wrapped : ∀ r, f.wrapped = some (some r) → r.Fits room

theorem ne_other_of_kind {j : Json} {k : Kind} (h : Decode.kind j = .ok k) :
    ∀ b ∈ Kind.builtins, k ≠ .other b.name := by
  obtain ⟨name, -, rfl⟩ := Decode.map_eq_ok_iff.mp h
  exact Kind.ofName_ne_other name

section Fields

variable {room : Nat} {read : Json → Except DecodeError Record}

theorem fits_of_wrapped? (hread : ∀ j r, read j = .ok r → r.Fits room) {j : Json}
    {w : Option Record} (h : wrapped? read j = .ok w) : ∀ r, w = some r → r.Fits room := by
  rintro r rfl
  unfold wrapped? at h
  split at h
  · cases h
  · obtain ⟨r', hr, he⟩ := Decode.map_eq_ok_iff.mp h
    cases he
    exact hread _ _ hr

/-- One more member leaves fields that fit. -/
theorem Fields.Fit.add (hread : ∀ j r, read j = .ok r → r.Fits room) {f g : Fields}
    (hf : f.Fit room) {m : Option String × Json} (h : f.add read m = .ok g) : g.Fit room := by
  unfold Fields.add at h
  split at h
  · cases h
  · split at h
    · cases h
    · obtain ⟨k, hk, rfl⟩ := Decode.map_eq_ok_iff.mp h
      exact ⟨fun l hl => by cases hl; exact ne_other_of_kind hk, hf.wrapped⟩
  · split at h
    · cases h
    · obtain ⟨message, -, rfl⟩ := Decode.map_eq_ok_iff.mp h
      exact ⟨hf.kind, hf.wrapped⟩
  · split at h
    · cases h
    · obtain ⟨w, hw, rfl⟩ := Decode.map_eq_ok_iff.mp h
      exact ⟨hf.kind, fun r hr => fits_of_wrapped? hread hw r (Option.some.inj hr)⟩
  · cases h
    exact hf

theorem Fields.Fit.of_foldlM (hread : ∀ j r, read j = .ok r → r.Fits room) {f g : Fields}
    (hf : f.Fit room) {members : List (Option String × Json)}
    (h : members.foldlM (Fields.add read) f = .ok g) : g.Fit room := by
  induction members generalizing f with
  | nil =>
    cases h
    exact hf
  | cons m members ih =>
    rw [List.foldlM_cons] at h
    obtain ⟨f', hf', h⟩ := Decode.bind_eq_ok_iff.mp h
    exact ih (hf.add hread hf') h

/-- The items of an array are read as fields that fit. -/
theorem Fields.Fit.of_ofItems (hread : ∀ j r, read j = .ok r → r.Fits room) {f : Fields}
    {items : List Json} (h : Fields.ofItems read items = .ok f) : f.Fit room := by
  unfold Fields.ofItems at h
  split at h
  · cases h
  · obtain ⟨k, hk, h⟩ := Decode.bind_eq_ok_iff.mp h
    cases h
    exact ⟨fun l hl => by cases hl; exact ne_other_of_kind hk, fun _ hr => nomatch hr⟩
  · obtain ⟨k, hk, h⟩ := Decode.bind_eq_ok_iff.mp h
    obtain ⟨message, -, h⟩ := Decode.bind_eq_ok_iff.mp h
    cases h
    exact ⟨fun l hl => by cases hl; exact ne_other_of_kind hk, fun _ hr => nomatch hr⟩
  · obtain ⟨k, hk, h⟩ := Decode.bind_eq_ok_iff.mp h
    obtain ⟨message, -, h⟩ := Decode.bind_eq_ok_iff.mp h
    obtain ⟨w, hw, h⟩ := Decode.bind_eq_ok_iff.mp h
    split at h
    · cases h
      exact ⟨fun l hl => by cases hl; exact ne_other_of_kind hk,
        fun r hr => fits_of_wrapped? hread hw r (Option.some.inj hr)⟩
    · cases h

/-- The record of fields that fit takes one group more than what it wraps. -/
theorem Fields.Fit.finish {f : Fields} (hf : f.Fit room) {r : Record} (h : f.finish = .ok r) :
    r.Fits (room + 1) := by
  unfold Fields.finish at h
  split at h
  · cases h
  · rename_i k hk
    cases h
    -- what is wrapped, if there is anything
    have hw : ((f.wrapped.join.map chain).getD []).length ≤ room ∧
        ∀ x ∈ (f.wrapped.join.map chain).getD [], ∀ b ∈ Kind.builtins, x.1 ≠ .other b.name := by
      rcases hw : f.wrapped with _ | _ | w
      · exact ⟨Nat.zero_le _, fun _ hx => nomatch hx⟩
      · exact ⟨Nat.zero_le _, fun _ hx => nomatch hx⟩
      · exact ⟨(hf.wrapped w hw).length, (hf.wrapped w hw).kinds⟩
    exact ⟨Nat.succ_le_succ hw.1, List.forall_mem_cons.mpr ⟨hf.kind k hk, hw.2⟩⟩

end Fields

/-- **A record that was read** fits where it was read. -/
theorem fits_of_ofJson {room : Nat} {j : Json} {r : Record} (h : ofJson room j = .ok r) :
    r.Fits room := by
  induction room generalizing j r with
  | zero => cases j <;> cases h
  | succ room ih =>
    have hread : ∀ j r, ofJson room j = .ok r → r.Fits room := fun _ _ => ih
    have hempty : ({} : Fields).Fit room := ⟨fun _ hk => (nomatch hk), fun _ hr => nomatch hr⟩
    cases j with
    | object members =>
      obtain ⟨f, hf, h⟩ := Decode.bind_eq_ok_iff.mp h
      exact (hempty.of_foldlM hread hf).finish h
    | array items =>
      obtain ⟨f, hf, h⟩ := Decode.bind_eq_ok_iff.mp h
      exact (Fields.Fit.of_ofItems hread hf).finish h
    | _ => cases h

end Record

/-! ## Values -/

section Values

variable {P : Policy} {room : Nat} {T : Schema} {v : Value} {s : Session σ}

/-- A value of a schema is normal where there is so much room: it is the one its document denotes,
and it can be read under the policy. -/
structure Schema.Normal (P : Policy) (room : Nat) (T : Schema) (v : Value) : Prop where
  denotes : T.Denotes v
  readable : v.Readable P
  depth : ∀ j, v.toJson = .ok j → j.depth ≤ room

namespace Value.Readable

/-- A value that holds no cause is readable. -/
theorem of_scalar (hc : v.conditions = []) (hl : ∀ c, Value.failure c ∉ v.leaves) :
    v.Readable P where
  kinds x hx := by
    rw [hc] at hx
    cases hx
  nonFatal c h := absurd h (hl c)

theorem cause {c : Cause} (hc : ∀ x ∈ c.chain, ∀ b ∈ Kind.builtins, x.kind ≠ .other b.name) :
    (Value.cause c).Readable P where
  kinds := by simpa [conditions] using hc
  nonFatal d hd := by simp [leaves] at hd

theorem failure {c : Captured}
    (hc : ∀ x ∈ c.cause.chain, ∀ b ∈ Kind.builtins, x.kind ≠ .other b.name)
    (hf : P.classifier.isFatal c.cause = false) : (Value.failure c).Readable P where
  kinds := by simpa [conditions] using hc
  nonFatal d hd := by
    obtain rfl : d = c := by simpa [leaves] using hd
    exact hf

theorem list {vs : List Value} (h : ∀ v ∈ vs, v.Readable P) : (Value.list vs).Readable P where
  kinds x hx := by
    rw [conditions, causes_list, List.flatMap_assoc] at hx
    obtain ⟨v, hv, hx⟩ := List.mem_flatMap.mp hx
    exact (h v hv).kinds x hx
  nonFatal c hc := by
    rw [leaves] at hc
    obtain ⟨v, hv, hc⟩ := mem_leavesOfItems.mp hc
    exact (h v hv).nonFatal c hc

end Value.Readable

/-- The classifier in effect after a run that installs nothing. -/
theorem Run.Takes.inEffect_eq {α : Type} {m : Run σ α} {steps : List Step} (h : m.Takes s steps)
    (hs : ∀ e ∈ steps, e.choice = Classifier.standard) : (m s).2.inEffect = s.inEffect := by
  rw [Session.inEffect, h.classifier_eq, Session.inEffect]
  cases s.classifier with
  | some k => rfl
  | none =>
    rw [Option.none_or, Step.chosen, Option.getD_none]
    -- whichever step settles the matter chooses the standard classifier
    cases hf : steps.find? Step.settles with
    | none => rfl
    | some e => exact hs e (List.mem_of_find?_eq_some hf)

/-- Reading a document judges by one classifier all along. -/
theorem Schema.inEffect_ofJson (T : Schema) (room : Nat) (j : Json) (s : Session σ) :
    (T.ofJson room j s).2.inEffect = s.inEffect := by
  refine (T.traced_ofJson room j s).inEffect_eq fun e he => ?_
  obtain ⟨c, -, rfl⟩ := (T.mem_history_iff room j s).mp he
  rfl

/-- The conditions of a cause that was raised of a record tell what the record does. -/
theorem Record.Fits.kinds_causeFrom {r : Record} (h : r.Fits room) (n : Nat) :
    ∀ x ∈ (r.causeFrom n).chain, ∀ b ∈ Kind.builtins, x.kind ≠ .other b.name := by
  intro x hx
  have hm : (x.kind, x.message) ∈ r.chain := by
    rw [← Record.map_number n r.chain]
    exact List.mem_map_of_mem hx
  exact h.kinds _ hm

/-- A cause of a record that fits is written with as many groups as there is room for. -/
theorem Record.Fits.depth_causeFrom {r : Record} (h : r.Fits room) (n : Nat) :
    (r.causeFrom n).toJson.depth ≤ room := by
  rw [Cause.toJson, Condition.depth_chainToJson, causeFrom, length_number]
  exact h.length

/-- Items that are written with so many groups are so together. -/
theorem Json.itemsDepth_le {vs : List Value} {js : List Json} (hj : Value.toJsons vs = .ok js)
    (h : ∀ v ∈ vs, ∀ j, v.toJson = .ok j → j.depth ≤ room) : itemsDepth js ≤ room := by
  induction vs generalizing js with
  | nil =>
    rw [Value.toJsons] at hj
    cases hj
    exact Nat.zero_le _
  | cons v vs ih =>
    rw [Value.toJsons] at hj
    obtain ⟨k, hk, hj⟩ := Decode.bind_eq_ok_iff.mp hj
    obtain ⟨ks, hks, hj⟩ := Decode.bind_eq_ok_iff.mp hj
    cases hj
    rw [itemsDepth]
    exact Nat.max_le.mpr ⟨h v List.mem_cons_self k hk,
      ih hks fun w hw => h w (List.mem_cons_of_mem v hw)⟩

namespace Schema.Normal

/-- A value that is written as a scalar is normal in any room. -/
theorem of_scalar {k : Json} (hd : T.Denotes v) (hj : v.toJson = .ok k) (hk : k.depth = 0)
    (hc : v.conditions = []) (hl : ∀ c, Value.failure c ∉ v.leaves) : T.Normal P room v where
  denotes := hd
  readable := .of_scalar hc hl
  depth j hv := by
    obtain rfl := Except.ok.inj (hj.symm.trans hv)
    rw [hk]
    exact Nat.zero_le _

/-- What a variant holds is normal where there is one room less. -/
theorem holding {S : Schema} {f : Value → Value} {name : String} (h : T.Normal P room v)
    (hd : S.Denotes (f v)) (hf : (f v).toJson = (fun j => .record [(name, j)]) <$> v.toJson)
    (hl : (f v).leaves = v.leaves) :
    S.Normal P (room + 1) (f v) ∧ (f v).toJson ≠ .ok .null := by
  refine ⟨⟨hd, h.readable.congr hl.symm, fun j hj => ?_⟩, fun hj => ?_⟩
  · rw [hf] at hj
    obtain ⟨k, hk, rfl⟩ := Decode.map_eq_ok_iff.mp hj
    rw [Json.depth_record_singleton]
    exact Nat.succ_le_succ (h.depth k hk)
  · rw [hf] at hj
    obtain ⟨k, -, hk⟩ := Decode.map_eq_ok_iff.mp hj
    cases hk

theorem cause {r : Record} (hr : r.Fits room) (n : Nat) :
    Schema.cause.Normal P room (.cause (r.causeFrom n)) where
  denotes := .cause _
  readable := .cause (hr.kinds_causeFrom n)
  depth j hj := by
    rw [Value.toJson] at hj
    obtain rfl := Except.ok.inj hj
    exact hr.depth_causeFrom n

theorem failure {r : Record} (hr : r.Fits room) (n : Nat)
    (hf : P.classifier.isFatal (r.causeFrom n) = false) :
    (Schema.attempt T).Normal P (room + 1) (.failure ⟨r.causeFrom n⟩) where
  denotes := .failure T _
  readable := .failure (hr.kinds_causeFrom n) hf
  depth j hj := by
    rw [Value.toJson] at hj
    obtain rfl := Except.ok.inj hj
    rw [Json.depth_record_singleton]
    exact Nat.succ_le_succ (hr.depth_causeFrom n)

theorem list {vs : List Value} (h : ∀ v ∈ vs, T.Normal P room v) :
    (Schema.list T).Normal P (room + 1) (.list vs) where
  denotes := .list fun v hv => (h v hv).denotes
  readable := .list fun v hv => (h v hv).readable
  depth j hj := by
    rw [Value.toJson] at hj
    obtain ⟨js, hjs, rfl⟩ := Decode.map_eq_ok_iff.mp hj
    rw [Json.depth_array]
    exact Nat.succ_le_succ (Json.itemsDepth_le hjs fun v hv => (h v hv).depth)

theorem some (h : T.Normal P room v) (hn : v.toJson ≠ .ok .null) :
    (Schema.option T).Normal P room (.some v) where
  denotes := .some h.denotes hn
  readable := h.readable.congr rfl
  depth j hj := by
    rw [Value.toJson] at hj
    exact h.depth j hj

end Schema.Normal

/-- What is read as a schema is normal, and it is written as null only if it was read of null. -/
def Schema.ReadsNormal (P : Policy) (T : Schema) : Prop :=
  ∀ {σ : Type} {room : Nat} {j : Json} {v : Value} {s s' : Session σ},
    s.inEffect = P.classifier → T.ofJson room j s = (.returned (.ok v), s') →
      T.Normal P room v ∧ (j ≠ .null → v.toJson ≠ .ok .null)

namespace Schema.ReadsNormal

/-- A scalar that is not null. -/
theorem scalar {j k : Json} (hd : T.Denotes v) (hj : v.toJson = .ok k) (hk : k.depth = 0)
    (hn : k ≠ .null) (hc : v.conditions = []) (hl : ∀ c, Value.failure c ∉ v.leaves) :
    T.Normal P room v ∧ (j ≠ .null → v.toJson ≠ .ok .null) :=
  ⟨.of_scalar hd hj hk hc hl, fun _ he => hn (Except.ok.inj (hj.symm.trans he))⟩

theorem unit : Schema.unit.ReadsNormal P := by
  intro σ room j v s s' hP h
  cases j <;> cases h
  exact ⟨.of_scalar .unit (by rw [Value.toJson]) rfl rfl (by simp [Value.leaves]),
    fun hn => absurd rfl hn⟩

theorem bool : Schema.bool.ReadsNormal P := by
  intro σ room j v s s' hP h
  cases j <;> cases h
  exact scalar (.bool _) (by rw [Value.toJson]) rfl (by simp) rfl (by simp [Value.leaves])

theorem integer (w : Width) : (Schema.integer w).ReadsNormal P := by
  intro σ room j v s s' hP h
  cases j with
  | integer n =>
    rw [Schema.ofJson] at h
    split at h
    · rename_i hn
      cases h
      exact scalar (.integer hn) (by rw [Value.toJson]) rfl (by simp) rfl (by simp [Value.leaves])
    · cases h
  | _ => cases h

theorem text : Schema.text.ReadsNormal P := by
  intro σ room j v s s' hP h
  obtain ⟨ha, rfl⟩ := Run.pure_eq_returned_iff.mp h
  obtain ⟨t, -, rfl⟩ := Decode.map_eq_ok_iff.mp ha
  exact scalar (.text t) (by rw [Value.toJson]) rfl (by simp [Json.text]) rfl
    (by simp [Value.leaves])

theorem kind : Schema.kind.ReadsNormal P := by
  intro σ room j v s s' hP h
  obtain ⟨ha, rfl⟩ := Run.pure_eq_returned_iff.mp h
  obtain ⟨k, hk, rfl⟩ := Decode.map_eq_ok_iff.mp ha
  obtain ⟨name, -, rfl⟩ := Decode.map_eq_ok_iff.mp hk
  exact scalar (.kind name) (by rw [Value.toJson]) rfl (by simp [Json.text]) rfl
    (by simp [Value.leaves])

theorem cause : Schema.cause.ReadsNormal P := by
  intro σ room j v s s' hP h
  obtain ⟨r, hr, rfl, -⟩ := Schema.ofJson_cause_eq_ok_iff.mp h
  refine ⟨.cause (Record.fits_of_ofJson hr) s.next, fun _ hj => ?_⟩
  exact Schema.Describes.toJson_ne_null (.cause (r.causeFrom s.next)) rfl hj rfl

theorem attempt (ih : T.ReadsNormal P) : (Schema.attempt T).ReadsNormal P := by
  intro σ room j v s s' hP h
  obtain ⟨inner, t, rfl, ⟨-, w, hr, rfl⟩ | ⟨-, hr⟩⟩ := Schema.ofJson_attempt_eq_ok_iff.mp h
  · have hw := (ih hP hr).1
    obtain ⟨hn, hnull⟩ := hw.holding (.success hw.denotes) (by rw [Value.toJson]) rfl
    exact ⟨hn, fun _ => hnull⟩
  · obtain ⟨r, hrecord, hf, rfl, -⟩ := Decode.failure_eq_ok_iff.mp hr
    rw [hP] at hf
    refine ⟨.failure (Record.fits_of_ofJson hrecord) s.next hf, fun _ hj => ?_⟩
    rw [Value.toJson] at hj
    cases hj

theorem maybe (ih : T.ReadsNormal P) : (Schema.maybe T).ReadsNormal P := by
  intro σ room j v s s' hP h
  obtain ⟨inner, t, w, rfl, -, hr, rfl⟩ | ⟨-, rfl, -⟩ := Schema.ofJson_maybe_eq_ok_iff.mp h
  · have hw := (ih hP hr).1
    obtain ⟨hn, hnull⟩ := hw.holding (.present hw.denotes) (by rw [Value.toJson]) rfl
    exact ⟨hn, fun _ => hnull⟩
  · exact scalar (.absent T) (by rw [Value.toJson]) rfl (by simp [Json.text]) rfl
      (by simp [Value.leaves])

/-- Each item that was read is normal. -/
theorem items (ih : T.ReadsNormal P) (hP : s.inEffect = P.classifier) {js : List Json}
    {vs : List Value} {s' : Session σ}
    (h : Decode.items (T.ofJson room) js s = (.returned (.ok vs), s')) :
    ∀ v ∈ vs, T.Normal P room v := by
  induction js generalizing s vs with
  | nil =>
    cases h
    exact fun _ hv => nomatch hv
  | cons j js ihs =>
    obtain ⟨v, ws, t, hv, hw, rfl⟩ := Decode.items_cons_eq_ok_iff.mp h
    -- the other items are read under the same policy
    have ht : t.inEffect = P.classifier := by
      rw [← hP, ← T.inEffect_ofJson room j s, hv]
    exact List.forall_mem_cons.mpr ⟨(ih hP hv).1, ihs ht hw⟩

theorem list (ih : T.ReadsNormal P) : (Schema.list T).ReadsNormal P := by
  intro σ room j v s s' hP h
  obtain ⟨inner, js, vs, rfl, -, hr, rfl⟩ := Schema.ofJson_list_eq_ok_iff.mp h
  refine ⟨.list (ih.items hP hr), fun _ hj => ?_⟩
  rw [Value.toJson] at hj
  obtain ⟨ks, -, hk⟩ := Decode.map_eq_ok_iff.mp hj
  cases hk

theorem option (ih : T.ReadsNormal P) : (Schema.option T).ReadsNormal P := by
  intro σ room j v s s' hP h
  obtain ⟨rfl, rfl, -⟩ | ⟨hj, w, hr, rfl⟩ := Schema.ofJson_option_eq_ok_iff.mp h
  · exact ⟨.of_scalar (.none T) (by rw [Value.toJson]) rfl rfl (by simp [Value.leaves]),
      fun hn => absurd rfl hn⟩
  · -- what the option holds was read of something else, so it is not written as null
    obtain ⟨hw, hn⟩ := ih hP hr
    refine ⟨hw.some (hn hj), fun _ hv => ?_⟩
    rw [Value.toJson] at hv
    exact hn hj hv

end Schema.ReadsNormal

/-- **What was read is normal**, whatever the schema. -/
theorem Schema.readsNormal (P : Policy) (T : Schema) : T.ReadsNormal P := by
  induction T with
  | unit => exact ReadsNormal.unit
  | bool => exact ReadsNormal.bool
  | integer w => exact ReadsNormal.integer w
  | text => exact ReadsNormal.text
  | kind => exact ReadsNormal.kind
  | cause => exact ReadsNormal.cause
  | attempt T ih => exact ReadsNormal.attempt ih
  | maybe T ih => exact ReadsNormal.maybe ih
  | list T ih => exact ReadsNormal.list ih
  | option T ih => exact ReadsNormal.option ih

/-! ## Writing again -/

/-- A chain is written by what it tells. -/
theorem Condition.chainToJson_number (n : Nat) (outer : Condition) (wrapped : List Condition) :
    Condition.chainToJson ⟨n, outer.kind, outer.message⟩
      (Record.number (n + 1) (wrapped.map fun x => (x.kind, x.message))) =
      outer.chainToJson wrapped := by
  induction wrapped generalizing n outer with
  | nil => rfl
  | cons next rest ih =>
    rw [List.map_cons, Record.number, Condition.chainToJson, ih]
    rfl

theorem Cause.toJson_renew (n : Nat) (c : Cause) : (c.renew n).toJson = c.toJson :=
  Condition.chainToJson_number n c.condition c.wrapped

/-- **New causes are written like the old ones.** -/
theorem Schema.Denotes.toJson_renew (hv : T.Denotes v) (n : Nat) :
    (v.renew n).toJson = v.toJson := by
  induction hv generalizing n with
  | unit | bool | integer | text | kind | absent | none => rfl
  | cause c => rw [Value.renew, Value.toJson, Value.toJson, Cause.toJson_renew]
  | failure s c => rw [Value.renew, Value.toJson, Value.toJson, Cause.toJson_renew]
  | success h ih => rw [Value.renew, Value.toJson, Value.toJson, ih]
  | present h ih => rw [Value.renew, Value.toJson, Value.toJson, ih]
  | some h hn ih => rw [Value.renew, Value.toJson, Value.toJson, ih]
  | @list s vs h ih =>
    have items : Value.toJsons (Value.renewItems n vs) = Value.toJsons vs := by
      clear h
      induction vs generalizing n with
      | nil => rfl
      | cons v vs ihs =>
        have hvs := ihs (fun w hw => ih w (List.mem_cons_of_mem v hw)) (n + v.conditions.length)
        rw [Value.renewItems, Value.toJsons, Value.toJsons, ih v List.mem_cons_self, hvs]
    rw [Value.renew, Value.toJson, Value.toJson, items]

/-- The schema with a text in place of every kind. -/
def Schema.spelled : Schema → Schema
  | kind => text
  | attempt s => attempt s.spelled
  | maybe s => maybe s.spelled
  | list s => list s.spelled
  | option s => option s.spelled
  | s => s

/-- A value is described by the schema in which kinds are spelled. -/
theorem Schema.Denotes.describes (hv : T.Denotes v) : T.spelled.Describes v := by
  induction hv with
  | unit => exact .unit
  | bool b => exact .bool b
  | integer h => exact .integer h
  | text t => exact .text t
  | kind name => exact .text _
  | cause c => exact .cause c
  | success h ih => exact .success ih
  | failure s c => exact .failure _ c
  | present h ih => exact .present ih
  | absent s => exact .absent _
  | list h ih => exact .list ih
  | none s => exact .none _
  | some h hn ih => exact .some ih

/-! ## Documents -/

/-- **Documents have a normal form.** Let bytes be accepted as a schema under a policy. The value
that is read can be written, and whenever what was written is read as the schema under the same
policy, it is accepted as well. The value then is the one that was read first with new causes, which
tell the same kinds, messages and wrapped conditions, and it is written as the very same text. -/
theorem Schema.decodeBytes_normal {bytes : ByteArray} {s' : Session σ}
    (hP : s.inEffect = P.classifier) (h : T.decodeBytes bytes s = (.returned (.ok v), s')) :
    ∃ text, v.encode = .ok text ∧
      ∀ (τ : Type) (r : Session τ), r.inEffect = P.classifier →
        ∃ r', T.decodeBytes text.toUTF8 r = (.returned (.ok (v.renew r.next)), r') ∧
          v.Renewal r.next (v.renew r.next) ∧ (v.renew r.next).encode = .ok text := by
  obtain ⟨-, hr⟩ := Schema.decodeBytes_eq_ok_iff.mp h
  obtain ⟨⟨hd, hread, hdepth⟩, -⟩ := T.readsNormal P hP hr
  obtain ⟨j, text, hj, htext, htree⟩ := hd.describes.exists_encode
  refine ⟨text, htext, fun τ r hrP => ?_⟩
  obtain ⟨r', hr', -⟩ := hd.recovers τ Schema.room j r hj (hdepth j hj) hread hrP
  refine ⟨r', ?_, Value.renewal_renew hd.describes r.next, ?_⟩
  · rw [decodeBytes, decodeSymbols, htree, Run.bind_of_returned _ hr']
    rfl
  · rw [Value.encode, hd.toJson_renew, ← Value.encode, htext]

/-- A failure that is spelled by an array, with a message of null and with blanks, and the one text
that it is written as. -/
theorem Schema.decodeBytes_normal_failure :
    let v : Value := .failure ⟨{ condition := ⟨0, .io, none⟩ }⟩
    let s : Session Unit := { Session.start () with classifier := some Policy.empty.classifier }
    (∃ s', (Schema.attempt .unit).decodeBytes " \x7b\"Failure\":[\"Io\", null]\x7d".toUTF8 s =
      (.returned (.ok v), s')) ∧
    ∃ text, v.encode = .ok text ∧ text = "\x7b\"Failure\":\x7b\"kind\":\"Io\"\x7d\x7d" ∧
      ∃ s', (Schema.attempt .unit).decodeBytes text.toUTF8 s = (.returned (.ok v), s') := by
  have hread : Json.read (Json.Symbol.ofText " \x7b\"Failure\":[\"Io\", null]\x7d") =
      ⟨.object [(Option.some "Failure", .array [.text "Io", .null])], true⟩ := by cbv
  have hwritten : (Value.failure ⟨{ condition := ⟨0, .io, none⟩ }⟩).encode =
      .ok "\x7b\"Failure\":\x7b\"kind\":\"Io\"\x7d\x7d" := rfl
  intro v s
  have hP : s.inEffect = Policy.empty.classifier := rfl
  have h : (Schema.attempt .unit).decodeBytes " \x7b\"Failure\":[\"Io\", null]\x7d".toUTF8 s =
      (.returned (.ok v), { s with next := 1 }) := by
    rw [decodeBytes, Json.Symbol.ofBytes_toUTF8, decodeSymbols, hread]
    rfl
  obtain ⟨text, htext, hr⟩ := Schema.decodeBytes_normal hP h
  obtain ⟨s', hs', -⟩ := hr Unit s hP
  obtain rfl := Except.ok.inj (hwritten.symm.trans htext)
  exact ⟨⟨_, h⟩, _, htext, rfl, s', hs'⟩

end Values

end Fallible
