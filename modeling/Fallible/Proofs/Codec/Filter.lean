import Fallible.Proofs.Codec.Normal
import Fallible.Proofs.Codec.Reload
import Fallible.Proofs.History.Laxer

/-!
# The policy filters documents

The classifier in effect is asked about the causes of failures, as soon as each of them is read, and
about nothing else in a document. So reading under a policy is reading under the empty policy,
under which no cause is fatal, and then refusing a value in which a failure has a fatal cause,
however deep it stands. A kind that is only wrapped is never looked at, nor is that of a cause that
is no failure.

Reading does not unwind and reports nothing, whether the document is accepted or not.

## Main definitions

* `Run.Discreet`: always returning, and reporting nothing
* `Value.failureKinds`: the kinds by which a policy judges a value
* `Schema.Rereads`: being read again in another session and under another policy

## Main results

* `Schema.discreet_decodeBytes`: reading bytes is discreet
* `Schema.rereads`: what was read is read again unless a failure in it is fatal
* `Schema.decodeBytes_filtered`: the policy only filters
-/

namespace Fallible

variable {σ τ α β : Type}

/-! ## Reading is discreet -/

/-- A run that always returns, and reports nothing. -/
def Run.Discreet (m : Run σ α) : Prop :=
  ∀ s, ∃ a s', m s = (.returned a, s') ∧ s'.events = s.events

namespace Run.Discreet

theorem pure (a : α) : (Pure.pure a : Run σ α).Discreet :=
  fun s => ⟨a, s, rfl, rfl⟩

theorem bind {m : Run σ α} {f : α → Run σ β} (hm : m.Discreet) (hf : ∀ a, (f a).Discreet) :
    (m >>= f).Discreet := by
  intro s
  obtain ⟨a, t, ha, ht⟩ := hm s
  obtain ⟨b, s', hb, hs⟩ := hf a t
  exact ⟨b, s', bind_eq_returned_iff.mpr ⟨a, t, ha, hb⟩, hs.trans ht⟩

theorem raise (r : Record) : (r.raise : Run σ Cause).Discreet :=
  fun s => ⟨_, _, r.raise_apply s, rfl⟩

theorem ofCause (c : Cause) : (Captured.ofCause c : Run σ _).Discreet :=
  fun s => ⟨_, _, Captured.ofCause_apply c s, rfl⟩

end Run.Discreet

open Run (Discreet)

namespace Decode

theorem discreet_failure (room : Nat) (j : Json) :
    Discreet (failure room j : Run σ (Except DecodeError Value)) := by
  rw [failure]
  cases Record.ofJson room j with
  | error e => exact .pure _
  | ok r =>
    refine (Discreet.raise r).bind fun c => (Discreet.ofCause c).bind fun answer => ?_
    cases answer <;> exact .pure _

theorem discreet_items {read : Json → Run σ (Except DecodeError Value)}
    (h : ∀ j, (read j).Discreet) (js : List Json) : (items read js).Discreet := by
  induction js with
  | nil => exact .pure _
  | cons j js ih =>
    rw [items]
    refine (h j).bind fun answer => ?_
    cases answer with
    | error e => exact .pure _
    | ok v => exact ih.bind fun _ => .pure _

end Decode

theorem Schema.discreet_ofJson (T : Schema) (room : Nat) (j : Json) :
    Discreet (T.ofJson room j : Run σ (Except DecodeError Value)) := by
  induction T generalizing room j with
  | unit | text | kind => exact .pure _
  | bool | integer => cases j <;> exact .pure _
  | cause =>
    rw [Schema.ofJson]
    cases Record.ofJson room j with
    | error e => exact .pure _
    | ok r => exact (Discreet.raise r).bind fun _ => .pure _
  | option T ih =>
    cases j with
    | null => exact .pure _
    | _ => exact (ih room _).bind fun _ => .pure _
  | list T ih =>
    cases j with
    | array js =>
      cases room with
      | zero => exact .pure _
      | succ room => exact (Decode.discreet_items (ih room) js).bind fun _ => .pure _
    | _ => exact .pure _
  | attempt T ih =>
    rw [Schema.ofJson]
    rcases Variant.ofJson room ["Success", "Failure"] j with e | ⟨name⟩ | ⟨name, t, inner, alone⟩
    · exact .pure _
    · exact .pure _
    · simp only
      split
      · exact (ih inner t).bind fun _ => .pure _
      · exact (Decode.discreet_failure inner t).bind fun _ => .pure _
  | maybe T ih =>
    rw [Schema.ofJson]
    rcases Variant.ofJson room ["Some", "None"] j with e | ⟨name⟩ | ⟨name, t, inner, alone⟩
    · exact .pure _
    · exact .pure _
    · simp only
      split
      · exact (ih inner t).bind fun _ => .pure _
      · exact .pure _

/-- **Reading bytes** never unwinds and reports nothing, whatever they are. -/
theorem Schema.discreet_decodeBytes (T : Schema) (bytes : ByteArray) :
    Discreet (T.decodeBytes bytes : Run σ (Except DecodeError Value)) := by
  refine (T.discreet_ofJson _ _).bind fun answer => ?_
  cases answer <;> exact .pure _

/-! ## Kinds of failures -/

/-- A cause that was raised of a record is raised of it again. -/
theorem Cause.renew_causeFrom (m n : Nat) (r : Record) :
    (r.causeFrom m).renew n = r.causeFrom n := by
  have hw : (r.causeFrom m).wrapped.map (fun x => (x.kind, x.message)) = r.wrapped :=
    Record.map_number _ _
  rw [renew, hw]
  rfl

/-- Raising a record takes as many numbers as any cause raised of it has conditions. -/
theorem Session.readOn_raised (s : Session σ) (record : Record) (n : Nat) :
    s.ReadOn (record.causeFrom n).chain.length { s with next := s.next + record.chain.length } where
  next := congrArg (s.next + ·) (Record.length_number n record.chain).symm
  inEffect := rfl
  events := rfl
  caller := rfl

namespace Value

/-- The kind by which a policy judges a leaf, if it is a failure. -/
def failureKind? : Value → Option Kind
  | failure c => Option.some c.cause.kind
  | _ => Option.none

/-- The outermost kinds of the causes of all failures in a value, in order. -/
def failureKinds (v : Value) : List Kind :=
  v.leaves.filterMap failureKind?

theorem forall_mem_failureKinds_iff {v : Value} {p : Kind → Prop} :
    (∀ k ∈ v.failureKinds, p k) ↔ ∀ c, failure c ∈ v.leaves → p c.cause.kind := by
  constructor
  · intro h c hc
    exact h _ (List.mem_filterMap.mpr ⟨_, hc, rfl⟩)
  · intro h k hk
    obtain ⟨l, hl, hk⟩ := List.mem_filterMap.mp hk
    cases l with
    | failure c =>
      obtain rfl := Option.some.inj hk
      exact h c hl
    | _ => cases hk

theorem failureKinds_list_cons (v : Value) (vs : List Value) :
    (list (v :: vs)).failureKinds = v.failureKinds ++ (list vs).failureKinds := by
  rw [failureKinds, leaves, leavesOfItems, List.filterMap_append]
  rfl

/-- A failure keeps its kind where its cause is renewed. -/
theorem failureKinds_renew {T : Schema} {v : Value} (hv : T.Describes v) (n : Nat) :
    (v.renew n).failureKinds = v.failureKinds := by
  induction hv generalizing n with
  | unit | bool | integer | text | absent | none | cause | failure => rfl
  | success h ih | present h ih | some h ih => exact ih n
  | @list T vs h ih =>
    induction vs generalizing n with
    | nil => rfl
    | cons v vs ihs =>
      have hvs := ihs (fun w hw => h w (List.mem_cons_of_mem v hw))
        (fun w hw => ih w (List.mem_cons_of_mem v hw)) (n + v.conditions.length)
      rw [renew, renewItems, failureKinds_list_cons, failureKinds_list_cons,
        ih v List.mem_cons_self, ← hvs, renew]

end Value

/-! ## Reading again -/

/-- What was read of a tree as a schema is read of it again, with new causes, in any session in
which no failure in it is fatal. -/
def Schema.Rereads (T : Schema) : Prop :=
  ∀ {σ τ : Type} {P : Policy} {room : Nat} {j : Json} {v : Value} {s s' : Session σ}
    {r : Session τ}, T.ofJson room j s = (.returned (.ok v), s') → r.inEffect = P.classifier →
      (∀ k ∈ v.failureKinds, P.isFatal k = false) →
      ∃ r', T.ofJson room j r = (.returned (.ok (v.renew r.next)), r') ∧
        r.ReadOn v.conditions.length r'

namespace Schema.Rereads

section Reading

variable {T : Schema} {P : Policy} {room : Nat} {s s' : Session σ} {r : Session τ} {v : Value}

/-- Where nothing is raised, the session does not matter. -/
theorem of_pure {answer : Except DecodeError Value} (ha : answer = .ok v)
    (hv : ∀ n, v.renew n = v) (hc : v.conditions = []) :
    ∃ r', (pure answer : Run τ _) r = (.returned (.ok (v.renew r.next)), r') ∧
      r.ReadOn v.conditions.length r' := by
  rw [hv, hc, ha]
  exact ⟨r, rfl, .refl r⟩

/-- What is read of a value around another that has the causes of that one. -/
theorem around {m : Run τ (Except DecodeError Value)} {f : Value → Value} {w : Value}
    (h : ∃ r', m r = (.returned (.ok (w.renew r.next)), r') ∧ r.ReadOn w.conditions.length r')
    (hf : ∀ n, (f w).renew n = f (w.renew n)) (hc : (f w).causes = w.causes)
    {m' : Run τ (Except DecodeError Value)}
    (hm : ∀ {u r'}, m r = (.returned (.ok u), r') → m' r = (.returned (.ok (f u)), r')) :
    ∃ r', m' r = (.returned (.ok ((f w).renew r.next)), r') ∧
      r.ReadOn (f w).conditions.length r' := by
  obtain ⟨r', hr, ho⟩ := h
  rw [hf, Value.conditions_congr hc]
  exact ⟨r', hm hr, ho⟩

theorem cause : Schema.cause.Rereads := by
  intro σ τ P room j v s s' r h hr hv
  obtain ⟨record, hrecord, rfl, -⟩ := ofJson_cause_eq_ok_iff.mp h
  rw [Value.renew, Cause.renew_causeFrom, Value.conditions, Value.causes_cause,
    List.flatMap_singleton]
  exact ⟨_, ofJson_cause_eq_ok_iff.mpr ⟨record, hrecord, rfl, rfl⟩, r.readOn_raised record s.next⟩

/-- A failure is read again where its kind is not fatal. -/
theorem failure {j : Json} (h : Decode.failure room j s = (.returned (.ok v), s'))
    (hr : r.inEffect = P.classifier) (hv : ∀ k ∈ v.failureKinds, P.isFatal k = false) :
    ∃ r', Decode.failure room j r = (.returned (.ok (v.renew r.next)), r') ∧
      r.ReadOn v.conditions.length r' := by
  obtain ⟨record, hrecord, -, rfl, -⟩ := Decode.failure_eq_ok_iff.mp h
  -- the cause is another one, but its kind is the same
  have hf : r.inEffect.isFatal (record.causeFrom r.next) = false := by
    rw [hr]
    exact hv _ (List.mem_singleton_self _)
  rw [Value.renew, Cause.renew_causeFrom, Value.conditions, Value.causes_failure,
    List.flatMap_singleton]
  obtain ⟨hn, -, he, hc⟩ := r.readOn_raised record s.next
  exact ⟨_, Decode.failure_eq_ok_iff.mpr ⟨record, hrecord, hf, rfl, rfl⟩, hn, rfl, he, hc⟩

/-- Items are read again one after the other. -/
theorem items (ih : T.Rereads) {js : List Json} {vs : List Value}
    (h : Decode.items (T.ofJson room) js s = (.returned (.ok vs), s'))
    (hr : r.inEffect = P.classifier)
    (hv : ∀ k ∈ (Value.list vs).failureKinds, P.isFatal k = false) :
    ∃ r', Decode.items (T.ofJson room) js r =
        (.returned (.ok (Value.renewItems r.next vs)), r') ∧
      r.ReadOn (Value.list vs).conditions.length r' := by
  induction js generalizing s r vs with
  | nil =>
    cases h
    exact ⟨r, rfl, .refl r⟩
  | cons j js ihs =>
    obtain ⟨v, ws, t, hj, hjs, rfl⟩ := Decode.items_cons_eq_ok_iff.mp h
    rw [Value.failureKinds_list_cons, List.forall_mem_append] at hv
    -- the first item is read again, and the others in the session that this leaves
    obtain ⟨r₁, h₁, o₁⟩ := ih hj hr hv.1
    obtain ⟨r₂, h₂, o₂⟩ := ihs hjs (o₁.inEffect.trans hr) hv.2
    refine ⟨r₂, ?_, ?_⟩
    · refine Decode.items_cons_eq_ok_iff.mpr ⟨_, _, r₁, h₁, h₂, ?_⟩
      rw [Value.renewItems, ← o₁.next]
    · rw [Value.conditions_list_cons, List.length_append]
      exact o₁.trans o₂

end Reading

variable {T : Schema}

theorem unit : Schema.unit.Rereads := by
  intro σ τ P room j v s s' r h hr hv
  obtain ⟨ha, -⟩ := Run.pure_eq_returned_iff.mp h
  cases j <;> cases ha
  exact of_pure rfl (fun _ => rfl) rfl

theorem bool : Schema.bool.Rereads := by
  intro σ τ P room j v s s' r h hr hv
  cases j <;> cases h
  exact of_pure rfl (fun _ => rfl) rfl

theorem integer (w : Width) : (Schema.integer w).Rereads := by
  intro σ τ P room j v s s' r h hr hv
  cases j with
  | integer n =>
    obtain ⟨ha, -⟩ := Run.pure_eq_returned_iff.mp h
    obtain rfl : v = .int n := by
      split at ha <;> cases ha
      rfl
    exact of_pure ha (fun _ => rfl) rfl
  | _ => cases h

theorem text : Schema.text.Rereads := by
  intro σ τ P room j v s s' r h hr hv
  obtain ⟨ha, -⟩ := Run.pure_eq_returned_iff.mp h
  obtain ⟨t, -, rfl⟩ := Decode.map_eq_ok_iff.mp ha
  exact of_pure ha (fun _ => rfl) rfl

theorem kind : Schema.kind.Rereads := by
  intro σ τ P room j v s s' r h hr hv
  obtain ⟨ha, -⟩ := Run.pure_eq_returned_iff.mp h
  obtain ⟨k, -, rfl⟩ := Decode.map_eq_ok_iff.mp ha
  exact of_pure ha (fun _ => rfl) rfl

theorem attempt (ih : T.Rereads) : (Schema.attempt T).Rereads := by
  intro σ τ P room j v s s' r h hr hv
  obtain ⟨inner, t, rfl, ⟨rfl, w, hw, rfl⟩ | ⟨rfl, hf⟩⟩ := ofJson_attempt_eq_ok_iff.mp h
  · refine around (ih hw hr hv) (fun _ => rfl) (Value.causes_success w) fun hu => ?_
    exact ofJson_attempt_eq_ok_iff.mpr ⟨inner, t, rfl, .inl ⟨rfl, _, hu, rfl⟩⟩
  · obtain ⟨r', hr', ho⟩ := failure hf hr hv
    exact ⟨r', ofJson_attempt_eq_ok_iff.mpr ⟨inner, t, rfl, .inr ⟨rfl, hr'⟩⟩, ho⟩

theorem maybe (ih : T.Rereads) : (Schema.maybe T).Rereads := by
  intro σ τ P room j v s s' r h hr hv
  obtain ⟨inner, t, w, rfl, rfl, hw, rfl⟩ | ⟨hj, rfl, -⟩ := ofJson_maybe_eq_ok_iff.mp h
  · refine around (ih hw hr hv) (fun _ => rfl) (Value.causes_present w) fun hu => ?_
    exact ofJson_maybe_eq_ok_iff.mpr (.inl ⟨inner, t, _, rfl, rfl, hu, rfl⟩)
  · exact ⟨r, ofJson_maybe_eq_ok_iff.mpr (.inr ⟨hj, rfl, rfl⟩), .refl r⟩

theorem list (ih : T.Rereads) : (Schema.list T).Rereads := by
  intro σ τ P room j v s s' r h hr hv
  obtain ⟨inner, js, vs, rfl, rfl, hvs, rfl⟩ := ofJson_list_eq_ok_iff.mp h
  obtain ⟨r', hr', ho⟩ := ih.items hvs hr hv
  exact ⟨r', ofJson_list_eq_ok_iff.mpr ⟨inner, js, _, rfl, rfl, hr', rfl⟩, ho⟩

theorem option (ih : T.Rereads) : (Schema.option T).Rereads := by
  intro σ τ P room j v s s' r h hr hv
  obtain ⟨rfl, rfl, -⟩ | ⟨hj, w, hw, rfl⟩ := ofJson_option_eq_ok_iff.mp h
  · exact ⟨r, rfl, .refl r⟩
  · refine around (ih hw hr hv) (fun _ => rfl) (Value.causes_some w) fun hu => ?_
    exact ofJson_option_eq_ok_iff.mpr (.inr ⟨hj, _, hu, rfl⟩)

end Schema.Rereads

/-- **What was read is read again**, whatever the schema. -/
theorem Schema.rereads (T : Schema) : T.Rereads := by
  induction T with
  | unit => exact Rereads.unit
  | bool => exact Rereads.bool
  | integer w => exact Rereads.integer w
  | text => exact Rereads.text
  | kind => exact Rereads.kind
  | cause => exact Rereads.cause
  | attempt T ih => exact Rereads.attempt ih
  | maybe T ih => exact Rereads.maybe ih
  | list T ih => exact Rereads.list ih
  | option T ih => exact Rereads.option ih

/-! ## Documents -/

section Documents

variable {T : Schema} {P Q : Policy} {s : Session σ} {r : Session τ} {v : Value}

/-- A tree is read under a policy where it is read under the empty one and no failure in it has a
fatal kind. -/
theorem Schema.ofJson_filtered {room : Nat} {j : Json} (hP : s.inEffect = P.classifier)
    (hr : r.inEffect = Policy.empty.classifier) :
    (∃ s', T.ofJson room j s = (.returned (.ok v), s')) ↔
      ∃ w r', T.ofJson room j r = (.returned (.ok w), r') ∧ v = w.renew s.next ∧
        w.Renewal s.next v ∧ ∀ k ∈ w.failureKinds, P.isFatal k = false := by
  constructor
  · rintro ⟨s', hs⟩
    obtain ⟨⟨hd, hread, -⟩, -⟩ := T.readsNormal P hP hs
    -- under the empty policy the value is read again, and from there under `P` once more
    obtain ⟨r', hr', -⟩ := T.rereads hs hr fun _ _ => rfl
    have hw : ∀ k ∈ (v.renew r.next).failureKinds, P.isFatal k = false := by
      rw [Value.failureKinds_renew hd.describes, Value.forall_mem_failureKinds_iff]
      exact hread.nonFatal
    obtain ⟨s'', hs'', -⟩ := T.rereads hr' hP hw
    have hv : v = (v.renew r.next).renew s.next :=
      Except.ok.inj (Outcome.returned.inj (congrArg Prod.fst (hs.symm.trans hs'')))
    have hd' := (T.readsNormal Policy.empty hr hr').1.denotes.describes
    refine ⟨_, r', hr', hv, ?_, hw⟩
    have hrenewal := Value.renewal_renew hd' s.next
    rwa [← hv] at hrenewal
  · rintro ⟨w, r', hr', rfl, -, hw⟩
    obtain ⟨s', hs, -⟩ := T.rereads hr' hP hw
    exact ⟨s', hs⟩

/-- Policies that agree about every failure that is come to give the same answer. -/
theorem Schema.decodeBytes_of_agree {bytes : ByteArray} {es : List Event}
    (h : ∀ c, T.ComesTo Schema.room (Json.read (Json.Symbol.ofBytes bytes)).tree
      (s.under P.classifier es) c → P.isFatal c.kind = Q.isFatal c.kind) :
    (T.decodeBytes bytes (s.under Q.classifier es)).1 =
      (T.decodeBytes bytes (s.under P.classifier es)).1 := by
  have hsteps {e : Step} := T.mem_history_iff (e := e) Schema.room
    (Json.read (Json.Symbol.ofBytes bytes)).tree (s.under P.classifier es)
  have hasked : Step.asked ∉ T.history Schema.room (Json.read (Json.Symbol.ofBytes bytes)).tree
      (s.under P.classifier es) := by
    intro ha
    obtain ⟨c, -, hc⟩ := hsteps.mp ha
    cases hc
  have hjudged (c : Cause) (hc : Step.judged c ∈ T.history Schema.room
      (Json.read (Json.Symbol.ofBytes bytes)).tree (s.under P.classifier es)) :
      Q.classifier.isFatal c = P.classifier.isFatal c := by
    obtain ⟨d, hd, he⟩ := hsteps.mp hc
    cases he
    exact (h c hd).symm
  obtain ⟨new, -, hu, -⟩ :=
    (T.traced_decodeBytes bytes _).apply_under_of_agree rfl hasked hjudged es
  have hsame := congrArg Prod.fst hu
  exact hsame

/-- **The policy only filters.** Let the one session go by the policy `P`, and the other one by the
empty policy.

Bytes are accepted under `P` as a value if and only if they are accepted under the empty policy, as
the same value but for its causes, and no failure that stands anywhere in that has a cause that is
fatal under `P`. The causes were raised anew and tell the same.

Another policy that agrees about the outermost kind of every failure that is come to gives the same
answer: neither what a cause wraps nor a cause that is no failure is asked about. And reading always
returns and reports nothing, whatever the bytes are. -/
theorem Schema.decodeBytes_filtered (T : Schema) (bytes : ByteArray)
    (hP : s.inEffect = P.classifier) (hr : r.inEffect = Policy.empty.classifier) :
    (∀ v, (∃ s', T.decodeBytes bytes s = (.returned (.ok v), s')) ↔
      ∃ w r', T.decodeBytes bytes r = (.returned (.ok w), r') ∧
        v = w.renew s.next ∧ w.Renewal s.next v ∧
        ∀ c, Value.failure c ∈ w.leaves → P.isFatal c.cause.kind = false) ∧
    (∀ Q : Policy,
      (∀ c, T.ComesTo Schema.room (Json.read (Json.Symbol.ofBytes bytes)).tree
        (s.under P.classifier s.events) c → P.isFatal c.kind = Q.isFatal c.kind) →
      (T.decodeBytes bytes (s.under Q.classifier s.events)).1 =
        (T.decodeBytes bytes (s.under P.classifier s.events)).1) ∧
    ∃ answer s', T.decodeBytes bytes s = (.returned answer, s') ∧ s'.events = s.events := by
  refine ⟨fun v => ?_, fun Q => decodeBytes_of_agree, T.discreet_decodeBytes bytes s⟩
  simp only [decodeBytes_eq_ok_iff, exists_and_left, and_assoc, ofJson_filtered hP hr,
    Value.forall_mem_failureKinds_iff]

/-- A kind that is fatal is let pass in a cause that is no failure, and where it is only wrapped. -/
theorem Schema.decodeBytes_filtered_wrapped :
    let bytes := ("[\x7b\"Success\":\x7b\"kind\":\"Linkage\"\x7d\x7d," ++
      "\x7b\"Failure\":[\"Io\",null,[\"Linkage\"]]\x7d]").toUTF8
    let s : Session Unit := Session.start ()
    let v : Value := .list [.success (.cause { condition := ⟨0, .linkage, none⟩ }),
      .failure ⟨{ condition := ⟨1, .io, none⟩, wrapped := [⟨2, .linkage, none⟩] }⟩]
    Policy.standard.isFatal .linkage = true ∧
      ∃ s', (Schema.list (.attempt .cause)).decodeBytes bytes s = (.returned (.ok v), s') := by
  intro bytes s v
  have hread : Json.read (Json.Symbol.ofBytes bytes) =
      ⟨.array [.object [(some "Success", .object [(some "kind", .text "Linkage")])],
        .object [(some "Failure", .array [.text "Io", .null, .array [.text "Linkage"]])]],
        true⟩ := by
    rw [Json.Symbol.ofBytes_toUTF8]
    cbv
  let r : Session Unit := { s with classifier := some Policy.empty.classifier }
  have h : (Schema.list (.attempt .cause)).decodeBytes bytes r =
      (.returned (.ok v), { r with next := 3 }) := by
    rw [decodeBytes, decodeSymbols, hread]
    rfl
  have hd : (Schema.list (.attempt .cause)).Describes v :=
    .list (List.forall_mem_cons.mpr
      ⟨.success (.cause _), List.forall_mem_singleton.mpr (.failure _ _)⟩)
  -- the only failure is one of input or output
  have hf : ∀ k ∈ v.failureKinds, Policy.standard.isFatal k = false :=
    List.forall_mem_singleton.mpr (Policy.isFatal_standard rfl)
  refine ⟨List.any_eq_true.mpr ⟨.linkage, by decide, Kind.isA_self _⟩, ?_⟩
  exact ((decodeBytes_filtered (P := .standard) (r := r) _ bytes rfl rfl).1 v).mpr
    ⟨v, _, h, rfl, Value.renewal_renew hd 0, Value.forall_mem_failureKinds_iff.mp hf⟩

end Documents

end Fallible
