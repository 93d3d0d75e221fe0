import Fallible.Proofs.Codec.Reading
import Fallible.Proofs.Codec.Renewal
import Fallible.Proofs.Json.RoundTrip

/-!
# What was encoded is decoded again

A value of a schema has a document, and reading that document as the schema gives the value back
with new causes, provided that three things hold: every kind is the one that its name stands for,
every failure is non-fatal by the policy in effect, and the document is not nested deeper than
documents are looked into. A policy judges by the kind, which the document tells, so a captured
cause is found non-fatal again.

## Main definitions

* `Json.depth`: how deep a tree is nested
* `Session.ReadOn`: what reading so many conditions does to a session
* `Schema.Denotes`: values that can be told from their documents

## Main results

* `Schema.Describes.exists_toJson`: described values have documents
* `Schema.Denotes.recovers`, `Schema.Describes.recovers`: reading a tree that was written
* `Schema.decodeBytes_encode`: reading a text that was written
-/

namespace Fallible

variable {σ : Type}

/-! ## Depth -/

namespace Json

mutual

/-- How many groups of a tree stand within each other. -/
def depth : Json → Nat
  | array items => itemsDepth items + 1
  | object members => membersDepth members + 1
  | _ => 0

/-- The depth of the deepest item. -/
def itemsDepth : List Json → Nat
  | [] => 0
  | j :: js => max (depth j) (itemsDepth js)

/-- The depth of the deepest member. -/
def membersDepth : List (Option String × Json) → Nat
  | [] => 0
  | (_, j) :: members => max (depth j) (membersDepth members)

end

@[simp] theorem depth_array (js : List Json) : (array js).depth = itemsDepth js + 1 := by
  rw [depth]

@[simp] theorem depth_record_singleton (key : String) (j : Json) :
    (record [(key, j)]).depth = j.depth + 1 := by
  simp [record, depth, membersDepth]

end Json

/-- A chain is nested one level deep for each condition. -/
theorem Condition.depth_chainToJson (outer : Condition) (wrapped : List Condition) :
    (outer.chainToJson wrapped).depth = wrapped.length + 1 := by
  induction wrapped generalizing outer with
  | nil =>
    cases h : outer.message <;>
      simp [chainToJson, h, Json.record, Json.depth, Json.membersDepth, Json.text]
  | cons next rest ih =>
    -- the kind and the message are texts, so only what is wrapped counts
    cases h : outer.message <;>
      simp [chainToJson, h, Json.record, Json.depth, Json.membersDepth, ih, Json.text]

/-! ## Writing -/

/-- A level of a record is plain if what it wraps is. -/
theorem Condition.plain_level (outer : Condition)
    {wrapped : List (String × Json)} (h : ∀ m ∈ wrapped, m.2.Plain) :
    (Json.record <| ("kind", .text outer.kind.name) ::
      ((outer.message.map fun message => ("message", Json.text message)).toList ++
        wrapped)).Plain := by
  refine .record fun m hm => ?_
  obtain rfl | hm := List.mem_cons.mp hm
  · exact .text _
  -- the message, if there is one, or what is wrapped
  obtain hm | hm := List.mem_append.mp hm
  · obtain ⟨message, -, rfl⟩ := Option.map_eq_some_iff.mp (Option.mem_toList.mp hm)
    exact .text message
  · exact h m hm

theorem Condition.plain_chainToJson (outer : Condition) (wrapped : List Condition) :
    (outer.chainToJson wrapped).Plain := by
  induction wrapped generalizing outer with
  | nil => exact outer.plain_level fun _ hm => by cases hm
  | cons next rest ih =>
    refine outer.plain_level fun m hm => ?_
    rw [List.mem_singleton.mp hm]
    exact ih next

theorem Cause.plain_toJson (c : Cause) : c.toJson.Plain :=
  c.condition.plain_chainToJson c.wrapped

theorem Json.Plain.singleton {key : String} {j : Json} (hj : j.Plain) :
    (Json.record [(key, j)]).Plain := by
  refine .record fun m hm => ?_
  rw [List.mem_singleton.mp hm]
  exact hj

theorem Width.bounds_of_contains {w : Width} {n : Int} (h : w.contains n = true) :
    -9223372036854775808 ≤ n ∧ n < 18446744073709551616 := by
  simp only [Width.contains, Bool.and_eq_true, decide_eq_true_eq] at h
  cases w <;> simp only [Width.least, Width.greatest] at h <;> omega

/-- **Described values have documents**, which hold them as they are. -/
theorem Schema.Describes.exists_toJson {s : Schema} {v : Value} (hv : s.Describes v) :
    ∃ j, v.toJson = .ok j ∧ j.Plain := by
  induction hv with
  | unit | none => exact ⟨.null, by rw [Value.toJson], .null⟩
  | bool b => exact ⟨.bool b, by rw [Value.toJson], .bool b⟩
  | @integer w n h =>
    obtain ⟨hl, hg⟩ := Width.bounds_of_contains h
    exact ⟨.integer n, by rw [Value.toJson], .integer hl hg⟩
  | text s => exact ⟨.text s, by rw [Value.toJson], .text s⟩
  | cause c => exact ⟨c.toJson, by rw [Value.toJson], c.plain_toJson⟩
  | success h ih =>
    -- the document of the value, under the name of the variant
    obtain ⟨j, hj, hp⟩ := ih
    exact ⟨_, by rw [Value.toJson, hj]; rfl, hp.singleton⟩
  | failure s c =>
    exact ⟨_, by rw [Value.toJson], c.cause.plain_toJson.singleton⟩
  | present h ih =>
    obtain ⟨j, hj, hp⟩ := ih
    exact ⟨_, by rw [Value.toJson, hj]; rfl, hp.singleton⟩
  | absent s => exact ⟨.text "None", by rw [Value.toJson], .text "None"⟩
  | some h ih =>
    obtain ⟨j, hj, hp⟩ := ih
    exact ⟨j, by rw [Value.toJson, hj], hp⟩
  | @list s vs h ih =>
    have items : ∃ js, Value.toJsons vs = .ok js ∧ ∀ j ∈ js, j.Plain := by
      clear h
      induction vs with
      | nil => exact ⟨[], by rw [Value.toJsons], fun _ hj => by cases hj⟩
      | cons v vs ihs =>
        obtain ⟨j, hj, hp⟩ := ih v List.mem_cons_self
        obtain ⟨js, hjs, hps⟩ := ihs fun w hw => ih w (List.mem_cons_of_mem v hw)
        refine ⟨j :: js, by rw [Value.toJsons, hj, hjs]; rfl, fun k hk => ?_⟩
        obtain rfl | hk := List.mem_cons.mp hk
        · exact hp
        · exact hps k hk
    obtain ⟨js, hjs, hps⟩ := items
    exact ⟨.array js, by rw [Value.toJson, hjs]; rfl, .array hps⟩

/-- **What was written is read**: the text of a described value is a document, whose tree is the one
that was written. -/
theorem Schema.Describes.exists_encode {s : Schema} {v : Value} (hv : s.Describes v) :
    ∃ j text, v.toJson = .ok j ∧ v.encode = .ok text ∧
      Json.read (Json.Symbol.ofBytes text.toUTF8) = ⟨j, true⟩ := by
  obtain ⟨j, hj, hp⟩ := hv.exists_toJson
  refine ⟨j, String.ofList j.render, hj, by rw [Value.encode, hj]; rfl, ?_⟩
  rw [Json.Symbol.ofBytes_toUTF8, Json.Symbol.ofText, String.toList_ofList, Json.read_render hp]

/-! ## Reading -/

namespace Session

/-- What reading so many conditions does to a session: they are numbered, and what is judged goes by
the classifier in effect. -/
structure ReadOn (n : Nat) (s s' : Session σ) : Prop where
  next : s'.next = s.next + n
  inEffect : s'.inEffect = s.inEffect
  events : s'.events = s.events
  caller : s'.caller = s.caller

theorem ReadOn.refl (s : Session σ) : ReadOn 0 s s :=
  ⟨rfl, rfl, rfl, rfl⟩

theorem ReadOn.trans {m n : Nat} {s s' s'' : Session σ} (h : ReadOn m s s') (h' : ReadOn n s' s'') :
    ReadOn (m + n) s s'' where
  next := by rw [h'.next, h.next, Nat.add_assoc]
  inEffect := h'.inEffect.trans h.inEffect
  events := h'.events.trans h.events
  caller := h'.caller.trans h.caller

end Session

/-- Kinds that their names stand for are read back, and so is the whole chain. -/
theorem Cause.causeFrom_ofChain {c : Cause}
    (hk : ∀ x ∈ c.chain, ∀ b ∈ Kind.builtins, x.kind ≠ .other b.name) (n : Nat) :
    (Record.ofChain c.condition c.wrapped).causeFrom n = c.renew n := by
  have hc : Kind.ofName c.condition.kind.name = c.kind :=
    Kind.ofName_name (hk c.condition List.mem_cons_self)
  -- the conditions below are read by their names as well
  have hw : (c.wrapped.map fun x => (Kind.ofName x.kind.name, x.message)) =
      c.wrapped.map fun x => (x.kind, x.message) := by
    refine List.map_congr_left fun x hx => ?_
    rw [Kind.ofName_name (hk x (List.mem_cons_of_mem _ hx))]
  rw [Record.ofChain, hc, hw, Cause.renew]
  rfl

namespace Decode

/-- A cause that was written is read and judged where there is room for its chain. -/
theorem failure_toJson_apply (c : Cause) {room : Nat} (h : c.wrapped.length < room)
    (s : Session σ) :
    let d := (Record.ofChain c.condition c.wrapped).causeFrom s.next
    failure room c.toJson s =
      (.returned (if s.inEffect.isFatal d
        then .error (.data (.fatal (Captured.Refusal.mk d).message))
        else .ok (.failure ⟨d⟩)),
        { s with next := s.next + c.chain.length, classifier := some s.inEffect }) := by
  intro d
  rw [failure, Cause.toJson, Record.ofJson_chainToJson, if_pos h]
  -- the record is raised, and the cause that was raised is judged
  simp only [Run.bind_apply, Record.raise_apply, Record.length_chain_ofChain,
    Captured.ofCause_apply]
  have he : ({ s with next := s.next + c.chain.length } : Session σ).inEffect = s.inEffect := rfl
  rw [he]
  cases s.inEffect.isFatal d <;> rfl

theorem failure_toJson_of_no_room (c : Cause) {room : Nat} (h : room ≤ c.wrapped.length)
    (s : Session σ) : failure room c.toJson s = (.returned (.error .shape), s) := by
  rw [failure, Cause.toJson, Record.ofJson_chainToJson, if_neg (by omega)]
  rfl

end Decode

/-! ## Values -/

section Values

variable {s : Schema} {v : Value} {P : Policy} {sess : Session σ}

/-- A value is readable under a policy when every kind in it is the one that its name stands for and
every failure in it is non-fatal. -/
structure Value.Readable (P : Policy) (v : Value) : Prop where
  kinds : ∀ x ∈ v.conditions, ∀ b ∈ Kind.builtins, x.kind ≠ .other b.name
  nonFatal : ∀ c, Value.failure c ∈ v.leaves → P.classifier.isFatal c.cause = false

theorem Value.Readable.congr {w : Value} (h : w.Readable P) (hl : w.leaves = v.leaves) :
    v.Readable P where
  kinds := by
    have hc : w.causes = v.causes := by rw [causes, hl, ← causes]
    rw [← conditions_congr hc]
    exact h.kinds
  nonFatal := hl ▸ h.nonFatal

theorem Value.Readable.of_mem {vs : List Value} (h : (Value.list vs).Readable P) (hv : v ∈ vs) :
    v.Readable P where
  kinds x hx := by
    refine h.kinds x ?_
    rw [conditions, causes_list, List.flatMap_assoc]
    exact List.mem_flatMap.mpr ⟨v, hv, hx⟩
  nonFatal c hc := by
    refine h.nonFatal c ?_
    rw [leaves]
    exact mem_leavesOfItems.mpr ⟨v, hv, hc⟩

/-- A value of a schema that is not nullable is not written as null. -/
theorem Schema.Describes.toJson_ne_null (hv : s.Describes v) (hn : s.isNullable = false) {j : Json}
    (hj : v.toJson = .ok j) : j ≠ .null := by
  rintro rfl
  cases hv with
  | unit | none | some => cases hn
  | bool | integer | text | absent | failure => rw [Value.toJson] at hj; cases hj
  | cause c =>
    rw [Value.toJson] at hj
    obtain ⟨members, hm⟩ := Record.exists_chainToJson_eq_object c.condition c.wrapped
    rw [Cause.toJson, hm] at hj
    cases hj
  | success | present | list =>
    rw [Value.toJson] at hj
    obtain ⟨k, -, hk⟩ := Decode.map_eq_ok_iff.mp hj
    cases hk

/-- Reading a tree that a value was written as gives the value with new causes. -/
def Schema.Recovers (P : Policy) (s : Schema) (v : Value) : Prop :=
  ∀ (σ : Type) (room : Nat) (j : Json) (sess : Session σ), v.toJson = .ok j → j.depth ≤ room →
    v.Readable P → sess.inEffect = P.classifier →
    ∃ sess', s.ofJson room j sess = (.returned (.ok (v.renew sess.next)), sess') ∧
      sess.ReadOn v.conditions.length sess'

/-- A value without causes that is read with nothing raised. -/
theorem Schema.Recovers.of_scalar {j : Json} (hj : v.toJson = .ok j) (hc : v.conditions = [])
    (hr : ∀ n, v.renew n = v)
    (h : ∀ {σ : Type} (room : Nat) (sess : Session σ),
      s.ofJson room j sess = (.returned (.ok v), sess)) : s.Recovers P v := by
  intro σ room k sess hk _ _ _
  obtain rfl : j = k := Except.ok.inj (hj.symm.trans hk)
  refine ⟨sess, by rw [h, hr], ?_⟩
  rw [hc]
  exact .refl sess

/-- Items are recovered one after the other. -/
theorem Schema.Recovers.items {vs : List Value} (h : ∀ v ∈ vs, s.Recovers P v) {room : Nat}
    {js : List Json} (hj : Value.toJsons vs = .ok js) (hd : Json.itemsDepth js ≤ room)
    (hr : ∀ v ∈ vs, v.Readable P) (hP : sess.inEffect = P.classifier) :
    ∃ sess', Decode.items (s.ofJson room) js sess =
        (.returned (.ok (Value.renewItems sess.next vs)), sess') ∧
      sess.ReadOn (Value.list vs).conditions.length sess' := by
  induction vs generalizing js sess with
  | nil =>
    rw [Value.toJsons] at hj
    cases hj
    exact ⟨sess, rfl, .refl sess⟩
  | cons v vs ih =>
    rw [Value.toJsons] at hj
    obtain ⟨k, hv, hj⟩ := Decode.bind_eq_ok_iff.mp hj
    obtain ⟨ks, hvs, hj⟩ := Decode.bind_eq_ok_iff.mp hj
    cases hj
    rw [Json.itemsDepth] at hd
    -- the first item is recovered, and the others in the session that this leaves
    obtain ⟨s₁, h₁, o₁⟩ := h v List.mem_cons_self σ room k sess hv (by omega)
      (hr v List.mem_cons_self) hP
    obtain ⟨s₂, h₂, o₂⟩ := ih (fun w hw => h w (List.mem_cons_of_mem v hw)) hvs (by omega)
      (fun w hw => hr w (List.mem_cons_of_mem v hw)) (o₁.inEffect.trans hP)
    refine ⟨s₂, ?_, ?_⟩
    · refine Decode.items_cons_eq_ok_iff.mpr ⟨_, _, s₁, h₁, h₂, ?_⟩
      rw [Value.renewItems, ← o₁.next]
    · rw [Value.conditions_list_cons, List.length_append]
      exact o₁.trans o₂

/-- What a variant holds is read with one room less. -/
theorem Schema.Recovers.holding {S : Schema} {w : Value} {f : Value → Value} {name : String}
    (h : s.Recovers P w) (hf : (f w).toJson = (fun j => .record [(name, j)]) <$> w.toJson)
    (hl : (f w).leaves = w.leaves) (hr : ∀ n, (f w).renew n = f (w.renew n))
    (hstep : ∀ {σ : Type} (room : Nat) (j : Json),
      (S.ofJson (room + 1) (.record [(name, j)]) : Run σ _) =
        do return Decode.only true (f <$> (← s.ofJson room j))) : S.Recovers P (f w) := by
  intro σ room k sess hk hd hread hP
  rw [hf] at hk
  obtain ⟨j, hw, rfl⟩ := Decode.map_eq_ok_iff.mp hk
  -- the group of the variant takes one room, and the rest is enough for what it holds
  rw [Json.depth_record_singleton] at hd
  obtain ⟨room, rfl⟩ : ∃ n, room = n + 1 := ⟨room - 1, by omega⟩
  obtain ⟨sess', hs', ho⟩ := h σ room j sess hw (by omega) (hread.congr hl) hP
  refine ⟨sess', ?_, ?_⟩
  · rw [hstep, Run.bind_of_returned _ hs', hr]
    rfl
  · have hc : (f w).causes = w.causes := by rw [Value.causes, hl, ← Value.causes]
    rw [Value.conditions_congr hc]
    exact ho

/-- A value of a schema that is the one its document denotes: no option holds a value that is
written as null. -/
inductive Schema.Denotes : Schema → Value → Prop where
  | unit : Denotes .unit .unit
  | bool (b : Bool) : Denotes .bool (.bool b)
  | integer {w : Width} {n : Int} (h : w.contains n = true) : Denotes (.integer w) (.int n)
  | text (s : String) : Denotes .text (.text s)
  | kind (name : String) : Denotes .kind (.text (Kind.ofName name).name)
  | cause (c : Cause) : Denotes .cause (.cause c)
  | success {s : Schema} {v : Value} (h : Denotes s v) : Denotes (.attempt s) (.success v)
  | failure (s : Schema) (c : Captured) : Denotes (.attempt s) (.failure c)
  | present {s : Schema} {v : Value} (h : Denotes s v) : Denotes (.maybe s) (.present v)
  | absent (s : Schema) : Denotes (.maybe s) .absent
  | list {s : Schema} {vs : List Value} (h : ∀ v ∈ vs, Denotes s v) : Denotes (.list s) (.list vs)
  | none (s : Schema) : Denotes (.option s) .none
  | some {s : Schema} {v : Value} (h : Denotes s v) (hn : v.toJson ≠ .ok .null) :
      Denotes (.option s) (.some v)

/-- **Reading a tree that was written**, by induction on the value that it denotes. -/
theorem Schema.Denotes.recovers (hv : s.Denotes v) : s.Recovers P v := by
  induction hv with
  | unit => exact .of_scalar (by rw [Value.toJson]) rfl (fun _ => rfl) fun _ _ => rfl
  | bool b => exact .of_scalar (by rw [Value.toJson]) rfl (fun _ => rfl) fun _ _ => rfl
  | @integer w n h =>
    refine .of_scalar (by rw [Value.toJson]) rfl (fun _ => rfl) fun room sess => ?_
    rw [Schema.ofJson, if_pos h]
    rfl
  | text t => exact .of_scalar (by rw [Value.toJson]) rfl (fun _ => rfl) fun _ _ => rfl
  | kind name =>
    refine .of_scalar (by rw [Value.toJson]) rfl (fun _ => rfl) fun room sess => ?_
    -- the name that was written stands for the kind whose name it is
    have hk : Kind.ofName (Kind.ofName name).name = Kind.ofName name :=
      Kind.ofName_name (Kind.ofName_ne_other name)
    rw [Json.text, Schema.ofJson, Decode.kind, Decode.text]
    show (Outcome.returned (Except.ok (Value.text (Kind.ofName (Kind.ofName name).name).name)),
      sess) = _
    rw [hk]
  | none s => exact .of_scalar (by rw [Value.toJson]) rfl (fun _ => rfl) fun _ _ => rfl
  | absent s => exact .of_scalar (by rw [Value.toJson]) rfl (fun _ => rfl) fun _ _ => rfl
  | cause c =>
    intro σ room j sess hj hd hr hP
    rw [Value.toJson] at hj
    obtain rfl : c.toJson = j := Except.ok.inj hj
    rw [Cause.toJson, Condition.depth_chainToJson] at hd
    have hc : (Value.cause c).conditions = c.chain := by simp [Value.conditions]
    -- one group for each condition of the chain
    have hroom : c.wrapped.length < room := hd
    have hchain := Cause.causeFrom_ofChain (hc ▸ hr.kinds) sess.next
    refine ⟨{ sess with next := sess.next + c.chain.length }, ?_, ?_⟩
    · simp only [Schema.ofJson, Cause.toJson, Record.ofJson_chainToJson, if_pos hroom,
        Run.bind_apply, Record.raise_apply, Record.length_chain_ofChain, hchain]
      rfl
    · rw [hc]
      exact ⟨rfl, rfl, rfl, rfl⟩
  | @success s w h ih =>
    exact ih.holding (by rw [Value.toJson]) rfl (fun _ => rfl) fun _ _ => rfl
  | failure s c =>
    intro σ room j sess hj hd hr hP
    rw [Value.toJson] at hj
    obtain rfl : .record [("Failure", c.cause.toJson)] = j := Except.ok.inj hj
    rw [Json.depth_record_singleton, Cause.toJson, Condition.depth_chainToJson] at hd
    obtain ⟨room, rfl⟩ : ∃ n, room = n + 1 := ⟨room - 1, by omega⟩
    have hc : (Value.failure c).conditions = c.cause.chain := by simp [Value.conditions]
    have hread := Decode.failure_toJson_apply c.cause (Nat.le_of_succ_le_succ hd) sess
    -- a policy judges by the kind, which the new cause has as well
    have hf : P.classifier.isFatal (c.cause.renew sess.next) = false :=
      hr.nonFatal c (by simp [Value.leaves])
    simp only [Cause.causeFrom_ofChain (hc ▸ hr.kinds), hP, hf] at hread
    refine ⟨{
      sess with
      next := sess.next + c.cause.chain.length
      classifier := Option.some P.classifier }, ?_, ?_⟩
    · have hstep : ((Schema.attempt s).ofJson (room + 1) (.record [("Failure", c.cause.toJson)]) :
          Run σ _) = do return Decode.only true (← Decode.failure room c.cause.toJson) := rfl
      rw [hstep, Run.bind_of_returned _ hread]
      rfl
    · rw [hc]
      exact ⟨rfl, hP.symm, rfl, rfl⟩
  | @present s w h ih =>
    exact ih.holding (by rw [Value.toJson]) rfl (fun _ => rfl) fun _ _ => rfl
  | @list s vs h ih =>
    intro σ room j sess hj hd hr hP
    rw [Value.toJson] at hj
    obtain ⟨js, hvs, rfl⟩ := Decode.map_eq_ok_iff.mp hj
    rw [Json.depth_array] at hd
    obtain ⟨room, rfl⟩ : ∃ n, room = n + 1 := ⟨room - 1, by omega⟩
    obtain ⟨sess', hs', ho⟩ := Schema.Recovers.items ih hvs (Nat.le_of_succ_le_succ hd)
      (fun v hv => hr.of_mem hv) hP
    refine ⟨sess', ?_, ho⟩
    rw [Schema.ofJson, Run.bind_of_returned _ hs', Value.renew]
    rfl
  | @some s w h hn ih =>
    intro σ room j sess hj hd hr hP
    rw [Value.toJson] at hj
    -- null was not written for the value that the option holds
    have hnull : j ≠ .null := by
      rintro rfl
      exact hn hj
    obtain ⟨sess', hs', ho⟩ := ih σ room j sess hj hd (hr.congr rfl) hP
    refine ⟨sess', ?_, ?_⟩
    · rw [Schema.ofJson_option_of_ne_null s room hnull, Run.bind_of_returned _ hs']
      rfl
    · rw [Value.conditions_congr (Value.causes_some w)]
      exact ho

/-- A value of a faithful schema is the one its document denotes. -/
theorem Schema.Describes.denotes (hv : s.Describes v) (hs : s.isFaithful = true) : s.Denotes v := by
  induction hv with
  | unit => exact .unit
  | bool b => exact .bool b
  | integer h => exact .integer h
  | text t => exact .text t
  | cause c => exact .cause c
  | success h ih => exact .success (ih hs)
  | failure s c => exact .failure s c
  | present h ih => exact .present (ih hs)
  | absent s => exact .absent s
  | list h ih => exact .list fun v hv => ih v hv hs
  | none s => exact .none s
  | some h ih =>
    -- the option is not over a nullable schema, so null is not written for its value
    rw [isFaithful, Bool.and_eq_true, Bool.not_eq_true'] at hs
    exact .some (ih hs.2) fun hj => h.toJson_ne_null hs.1 hj rfl

/-- Reading a tree that a value of a faithful schema was written as. -/
theorem Schema.Describes.recovers (hv : s.Describes v) (hs : s.isFaithful = true) :
    s.Recovers P v :=
  (hv.denotes hs).recovers

/-- **What was encoded is decoded again.** Let a schema be faithful, and let a value that it
describes hold no kind but those that their names stand for, no failure but of a cause that is
non-fatal by the policy in effect, and no more than 127 groups within each other in its document.
Then the value is encoded, and decoding the text returns a value: this one with new causes, that is,
with causes whose conditions are numbered from the next free number on, and which tell what the
causes of the value do but rest on no foreign error. A value without causes is decoded to itself.
Nothing is reported, and neither what the caller holds nor the classifier in effect changes. -/
theorem Schema.decodeBytes_encode (hs : s.isFaithful = true) (hv : s.Describes v)
    (hP : sess.inEffect = P.classifier)
    (hk : ∀ x ∈ v.conditions, ∀ b ∈ Kind.builtins, x.kind ≠ .other b.name)
    (hf : ∀ c, Value.failure c ∈ v.leaves → P.classifier.isFatal c.cause = false)
    (hd : ∀ j, v.toJson = .ok j → j.depth ≤ 127) :
    ∃ text v' sess', v.encode = .ok text ∧
      s.decodeBytes text.toUTF8 sess = (.returned (.ok v'), sess') ∧
      v' = v.renew sess.next ∧
      v.Renewal sess.next v' ∧
      (v.causes = [] → v' = v) ∧
      sess'.next = sess.next + v.conditions.length ∧
      sess'.inEffect = P.classifier ∧ sess'.events = sess.events ∧ sess'.caller = sess.caller := by
  -- the text is read as the tree that was written, and the tree as the value
  obtain ⟨j, text, hj, htext, hread⟩ := hv.exists_encode
  obtain ⟨sess', hs', ho⟩ := hv.recovers hs σ room j sess hj (hd j hj) ⟨hk, hf⟩ hP
  have hr := Value.renewal_renew hv sess.next
  refine ⟨text, v.renew sess.next, sess', htext, ?_, rfl, hr, hr.same, ho.next, ?_, ho.events,
    ho.caller⟩
  · rw [decodeBytes, decodeSymbols, hread, Run.bind_of_returned _ hs']
    rfl
  · rw [ho.inEffect, hP]

/-- A list of attempts, one with a present value that is an empty option, and one that failed. -/
theorem Schema.decodeBytes_encode_list :
    let c : Cause := { condition := ⟨0, .io, some "disk"⟩, wrapped := [⟨1, .other "Parse", none⟩] }
    let v : Value := .list [.success (.present .none), .failure ⟨c⟩]
    let sess : Session Unit :=
      { Session.start () with next := 2, classifier := Policy.empty.classifier }
    ∃ text v' sess', v.encode = .ok text ∧
      (Schema.list (.attempt (.maybe (.option .text)))).decodeBytes text.toUTF8 sess =
        (.returned (.ok v'), sess') ∧
      v' = .list [.success (.present .none), .failure ⟨c.renew 2⟩] := by
  intro c v sess
  have hc : v.conditions = [⟨0, .io, some "disk"⟩, ⟨1, .other "Parse", none⟩] := rfl
  have hv : (Schema.list (.attempt (.maybe (.option .text)))).Describes v := by
    refine .list fun w hw => ?_
    obtain rfl | hw := List.mem_cons.mp hw
    · exact .success (.present (.none .text))
    · rw [List.mem_singleton.mp hw]
      exact .failure _ ⟨c⟩
  have hk : ∀ x ∈ v.conditions, ∀ b ∈ Kind.builtins, x.kind ≠ .other b.name := by
    rw [hc]
    decide
  have hd : ∀ j, v.toJson = .ok j → j.depth ≤ 127 := by
    intro j hj
    obtain rfl := Except.ok.inj hj
    decide
  have hP : sess.inEffect = Policy.empty.classifier := rfl
  have h := Schema.decodeBytes_encode rfl hv hP hk (fun _ _ => rfl) hd
  obtain ⟨text, v', sess', htext, hread, hv', -⟩ := h
  exact ⟨text, v', sess', htext, hread, hv'⟩

end Values

end Fallible
