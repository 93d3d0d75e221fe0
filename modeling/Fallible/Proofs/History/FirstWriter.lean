import Fallible.Proofs.Codec.Reading
import Fallible.Proofs.History.Own

/-!
# The first writer wins

A process starts with no classifier in effect. The first step of a run that settles the matter does
so for good: an installation puts its classifier into effect, and a judgement or a question the
standard one. Every later installation fails and changes nothing.

Which operations settle anything themselves is told by what they do: those that judge, ask or
install, those that hand over a cause to be captured, and documents in which a failure is come to
whose cause can be read, be the document accepted in the end or not.

## Main definitions

* `Schema.ComesTo`: reading a document comes to a failure whose cause can be read
* `Operation.Counts`: what makes an operation settle the classifier

## Main results

* `Schema.mem_history_iff`: what a document counts for
* `Operation.settles_own_iff`: which operations count
* `Program.first_writer_wins`: whole runs
-/

namespace Fallible

open History (silent judging capturing after handedOver)

/-! ## Documents -/

section Documents

variable {σ : Type}

/-- Reading a tree as a schema comes to a failure and reads its cause: everything before it was read
without an error. -/
inductive Schema.ComesTo : Schema → Nat → Json → Session σ → Cause → Prop where
  | failure {schema : Schema} {room inner : Nat} {j value : Json} {alone : Bool} {record : Record}
      {s : Session σ}
      (hj : Variant.ofJson room ["Success", "Failure"] j =
        .ok (.holding "Failure" value inner alone))
      (hr : Record.ofJson inner value = .ok record) :
      ComesTo (.attempt schema) room j s (record.causeFrom s.next)
  | success {schema : Schema} {room inner : Nat} {j value : Json} {alone : Bool} {s : Session σ}
      {c : Cause}
      (hj : Variant.ofJson room ["Success", "Failure"] j =
        .ok (.holding "Success" value inner alone))
      (hv : ComesTo schema inner value s c) : ComesTo (.attempt schema) room j s c
  | present {schema : Schema} {room inner : Nat} {j value : Json} {alone : Bool} {s : Session σ}
      {c : Cause}
      (hj : Variant.ofJson room ["Some", "None"] j = .ok (.holding "Some" value inner alone))
      (hv : ComesTo schema inner value s c) : ComesTo (.maybe schema) room j s c
  | some {schema : Schema} {room : Nat} {j : Json} {s : Session σ} {c : Cause} (hj : j ≠ .null)
      (hv : ComesTo schema room j s c) : ComesTo (.option schema) room j s c
  /-- The items before were read, and left the session `s'`. -/
  | item {schema : Schema} {room : Nat} {before later : List Json} {j : Json} {vs : List Value}
      {s s' : Session σ} {c : Cause}
      (hb : Decode.items (schema.ofJson room) before s = (.returned (.ok vs), s'))
      (hv : ComesTo schema room j s' c) :
      ComesTo (.list schema) (room + 1) (.array (before ++ j :: later)) s c

/-- Items take the steps of each item whose predecessors were read. -/
theorem Decode.mem_itemsHistory_iff {read : Json → Run σ (Except DecodeError Value)}
    {h : Json → History σ} {e : Step} (js : List Json) (s : Session σ) :
    e ∈ itemsHistory read h js s ↔ ∃ before j later vs s', js = before ++ j :: later ∧
      items read before s = (.returned (.ok vs), s') ∧ e ∈ h j s' := by
  induction js generalizing s with
  | nil => simp [itemsHistory, silent]
  | cons k js ih =>
    rw [itemsHistory, History.mem_andThen_iff]
    constructor
    · rintro (hk | ⟨_ | v, t, hr, hn⟩)
      · exact ⟨[], k, js, [], s, rfl, rfl, hk⟩
      · cases hn
      · obtain ⟨before, j, later, vs, s', rfl, hb, hj⟩ := (ih t).mp hn
        exact ⟨k :: before, j, later, v :: vs, s', rfl,
          items_cons_eq_ok_iff.mpr ⟨v, vs, t, hr, hb, rfl⟩, hj⟩
    · rintro ⟨before, j, later, vs, s', hjs, hb, hj⟩
      cases before with
      | nil =>
        cases hjs
        cases hb
        exact .inl hj
      | cons b before =>
        obtain ⟨rfl, rfl⟩ := List.cons.inj hjs
        obtain ⟨v, ws, t, hr, hb, -⟩ := items_cons_eq_ok_iff.mp hb
        exact .inr ⟨.ok v, t, hr, (ih t).mpr ⟨before, j, later, ws, s', rfl, hb, hj⟩⟩

theorem Decode.mem_failureHistory_iff {room : Nat} {j : Json} {s : Session σ} {e : Step} :
    e ∈ failureHistory room j s ↔
      ∃ record, Record.ofJson room j = .ok record ∧ e = .judged (record.causeFrom s.next) := by
  rw [failureHistory]
  cases Record.ofJson room j with
  | error error => simp [silent]
  | ok record =>
    refine History.mem_andThen_iff.trans ?_
    simp [silent, judging, Record.raise_apply]

/-- **What a document counts for**: reading it judges just the causes of the failures that it comes
to. -/
theorem Schema.mem_history_iff (schema : Schema) (room : Nat) (j : Json) (s : Session σ)
    {e : Step} : e ∈ schema.history room j s ↔ ∃ c, schema.ComesTo room j s c ∧ e = .judged c := by
  constructor
  · intro h
    induction schema generalizing room j s with
    | unit | bool | text | kind | integer w | cause => cases h
    | option schema ih =>
      cases j with
      | null => cases h
      | _ =>
        obtain ⟨c, hc, rfl⟩ := ih _ _ _ h
        exact ⟨c, .some (by simp) hc, rfl⟩
    | list schema ih =>
      cases j with
      | array js =>
        cases room with
        | zero => cases h
        | succ room =>
          obtain ⟨before, j, later, vs, s', rfl, hb, hj⟩ := (Decode.mem_itemsHistory_iff js s).mp h
          obtain ⟨c, hc, rfl⟩ := ih _ _ _ hj
          exact ⟨c, .item hb hc, rfl⟩
      | _ => cases h
    | attempt schema ih =>
      rw [history] at h
      rcases hj : Variant.ofJson room ["Success", "Failure"] j with error | ⟨name⟩ |
        ⟨name, value, inner, alone⟩ <;> rw [hj] at h
      · cases h
      · cases h
      · obtain ⟨-, hn, -⟩ := Variant.ofJson_eq_holding hj
        simp only [List.mem_cons, List.not_mem_nil, or_false] at hn
        obtain rfl | rfl := hn
        · obtain ⟨c, hc, rfl⟩ := ih _ _ _ h
          exact ⟨c, .success hj hc, rfl⟩
        · obtain ⟨record, hr, rfl⟩ := Decode.mem_failureHistory_iff.mp h
          exact ⟨_, .failure hj hr, rfl⟩
    | maybe schema ih =>
      rw [history] at h
      rcases hj : Variant.ofJson room ["Some", "None"] j with error | ⟨name⟩ |
        ⟨name, value, inner, alone⟩ <;> rw [hj] at h
      · cases h
      · cases h
      · obtain ⟨-, hn, -⟩ := Variant.ofJson_eq_holding hj
        simp only [List.mem_cons, List.not_mem_nil, or_false] at hn
        obtain rfl | rfl := hn
        · obtain ⟨c, hc, rfl⟩ := ih _ _ _ h
          exact ⟨c, .present hj hc, rfl⟩
        · cases h
  · rintro ⟨c, h, rfl⟩
    induction h with
    | failure hj hr =>
      rw [history, hj]
      exact Decode.mem_failureHistory_iff.mpr ⟨_, hr, rfl⟩
    | success hj hv ih | present hj hv ih =>
      rw [history, hj]
      exact ih
    | @some schema room j s c hj hv ih =>
      cases j with
      | null => exact absurd rfl hj
      | _ => exact ih
    | item hb hv ih => exact (Decode.mem_itemsHistory_iff _ _).mpr ⟨_, _, _, _, _, rfl, hb, ih⟩

end Documents

/-! ## Operations -/

/-- What makes an operation settle the classifier itself where there is none: it judges or asks, it
installs, it comes to a failure in a document, or it hands over a cause to be captured. -/
def Operation.Counts (f g : Body) (s : Session Live) : Operation → Prop
  | active | judge _ | ofCause _ => True
  | install _ => s.classifier = none
  | configure h => ∃ p s', Config.install h s = (.returned (.ok (some p)), s')
  | decode schema bytes =>
    ∃ c, schema.ComesTo Schema.room (Json.read (Json.Symbol.ofBytes bytes)).tree s c
  | op => ∃ c s', op.handing f g s = (.returned (some c), s')

theorem History.mem_handedOver_iff {σ : Type} {m : Run σ (Option Cause)} {s : Session σ}
    {e : Step} :
    e ∈ after m handedOver s ↔ ∃ c s', m s = (.returned (some c), s') ∧ e = .judged c := by
  refine mem_andThen_iff.trans ?_
  constructor
  · rintro (h | ⟨c | c, s', hm, h⟩)
    · cases h
    · cases h
    · exact ⟨c, s', hm, List.mem_singleton.mp h⟩
  · rintro ⟨c, s', hm, rfl⟩
    exact .inr ⟨some c, s', hm, List.mem_singleton_self _⟩

theorem History.settles_installing_iff {σ : Type} {k : Classifier} {s : Session σ} :
    (∃ e ∈ installing k s, e.settles = true) ↔ s.classifier = none := by
  have hi := Classifier.install_apply k s
  rw [installing]
  cases hs : s.classifier <;> rw [hs] at hi <;> rw [hi] <;>
    simp [Step.settles, Except.isOk, Except.toBool]

/-- A configuration settles the classifier where one is loaded and its policy is installed. -/
theorem Config.settles_configure_iff {f g : Code} {h : Host} {s : Session Live} :
    (∃ e ∈ (Operation.configure h).history f g s, e.settles = true) ↔
      ∃ p s', install h s = (.returned (.ok (some p)), s') := by
  constructor
  · rintro ⟨e, he, hs⟩
    obtain he | ⟨_ | _ | config, t, hl, he⟩ := History.mem_andThen_iff.mp he
    · cases he
    · cases he
    · cases he
    · have ht : t.classifier = none := History.settles_installing_iff.mp ⟨e, he, hs⟩
      obtain ⟨t', hi⟩ : ∃ t', config.policy.classifier.install t = (.returned (.ok ()), t') :=
        ⟨_, Classifier.install_eq_ok_iff.mpr ⟨ht, rfl⟩⟩
      refine ⟨config.policy, t', ?_⟩
      rw [install, Run.bind_of_returned _ hl]
      exact Run.bind_eq_returned_iff.mpr ⟨_, _, hi, rfl⟩
  · rintro ⟨p, s', h⟩
    obtain ⟨_ | _ | config, t, hl, h⟩ := Run.bind_eq_returned_iff.mp h
    · cases h
    · cases h
    · obtain ⟨_ | _, t', hi, h⟩ := Run.bind_eq_returned_iff.mp h
      · cases h
      · obtain ⟨e, he, hs⟩ := History.settles_installing_iff.mpr
          (Classifier.install_eq_ok_iff.mp hi).1
        exact ⟨e, History.mem_andThen_iff.mpr (.inr ⟨_, t, hl, he⟩), hs⟩

/-- **Which operations count.** -/
theorem Operation.settles_own_iff (op : Operation) (f g : Body) (s : Session Live) :
    (∃ e ∈ op.own f g s, e.settles = true) ↔ op.Counts f g s := by
  have handing (hd : op.isDirect = false) : (∃ e ∈ op.own f g s, e.settles = true) ↔
      ∃ c s', op.handing f g s = (.returned (some c), s') := by
    rw [own_eq f g op hd]
    constructor
    · rintro ⟨e, he, -⟩
      obtain ⟨c, s', hm, -⟩ := History.mem_handedOver_iff.mp he
      exact ⟨c, s', hm⟩
    · rintro ⟨c, s', hm⟩
      exact ⟨.judged c, History.mem_handedOver_iff.mpr ⟨c, s', hm, rfl⟩, rfl⟩
  cases op with
  | active | judge c | ofCause c =>
    exact ⟨fun _ => trivial, fun _ => ⟨_, List.mem_singleton_self _, rfl⟩⟩
  | install k => exact History.settles_installing_iff
  | configure h => exact Config.settles_configure_iff
  | decode schema bytes =>
    constructor
    · rintro ⟨e, he, -⟩
      obtain ⟨c, hc, -⟩ := (schema.mem_history_iff _ _ s).mp he
      exact ⟨c, hc⟩
    · rintro ⟨c, hc⟩
      exact ⟨.judged c, (schema.mem_history_iff _ _ s).mpr ⟨c, hc, rfl⟩, rfl⟩
  | _ => exact handing rfl

/-! ## Programs -/

/-- Caller code that is run and answers with a value has nothing captured. -/
theorem Operation.own_of_eq_nil {f g : Body} {s s' : Session Live} {v : Value}
    (h : Body.checked .self f .unit s = (.returned (.ok v), s')) : Operation.of.own f g s = [] := by
  refine List.eq_nil_iff_forall_not_mem.mpr fun e he => ?_
  rw [own_eq f g of rfl] at he
  obtain ⟨c, t, hm, -⟩ := History.mem_handedOver_iff.mp he
  -- what is handed over is what the code answered with
  have ha := CapturingCall.answered_of_handed hm
  rw [h] at ha
  cases ha

/-- **The first writer wins.** Let a program run where no classifier is in effect, with the steps of
its history. An installation among these succeeds just if no step before it settled the classifier,
be it a question, a judgement or an installation that succeeded; one that fails changes nothing at
all. After the run there is the classifier that the first settling step chose: what was installed,
or the standard one, or none if no step settled any.

As to single operations, each step is the operation's own or one of a function that it runs, its own
are all taken, and the operation settles something itself just if it counts. Operations that never
hand over a cause take no step themselves, nor does running code that answers with a value, and a
branch with nothing to do takes no step whatever its functions are. -/
theorem Program.first_writer_wins (p : Program) {s : Session Live} (hs : s.classifier = none) :
    p.run.Takes s (p.history s) ∧
    (∀ before k answer later, p.history s = before ++ .installed k answer :: later →
      (answer = .ok () ↔ ∀ e ∈ before, e.settles = false)) ∧
    (∀ (k : Classifier) (t t' : Session Live) answer, k.install t = (.returned answer, t') →
      answer ≠ .ok () → t' = t) ∧
    (p.run s).2.classifier = Step.chosen (p.history s) ∧
    (∀ (op : Operation) (f g : Code) (t : Session Live),
      (∀ e ∈ op.history f g t, e ∈ op.own f.run g.run t ∨ f.Step g e) ∧
      (∀ e ∈ op.own f.run g.run t, e ∈ op.history f g t) ∧
      ((∃ e ∈ op.own f.run g.run t, e.settles = true) ↔ op.Counts f.run g.run t) ∧
      (op.isQuiet = true → op.own f.run g.run t = [])) ∧
    (∀ (f g : Body) (t t' : Session Live) v,
      Body.checked .self f .unit t = (.returned (.ok v), t') → Operation.of.own f g t = []) ∧
    (∀ (f g : Code) (t : Session Live),
      (∀ (a : Attempt Value) (call : Attempt.Call),
        call.isIdle a = true → call.history f g a t = []) ∧
      ∀ (m : Maybe Value) (call : Maybe.Call),
        call.isIdle m = true → call.history f g m t = []) := by
  have ht : p.run.Takes s (p.history s) := p.traced_run s
  refine ⟨ht, ?_, ?_, ?_, ?_, ?_, ?_⟩
  · intro before k answer later h
    rw [ht.installed_iff h]
    exact and_iff_right hs
  · intro k t t' answer h ha
    rw [Classifier.install_apply] at h
    cases hc : t.classifier <;> rw [hc] at h <;> cases h
    · exact absurd rfl ha
    · rfl
  · rw [ht.classifier_eq, hs, Option.none_or]
  · intro op f g t
    exact ⟨op.within_own f g t, fun e => op.mem_history_of_mem_own,
      op.settles_own_iff f.run g.run t,
      fun hq => congrFun (Operation.own_of_isQuiet hq f.run g.run) t⟩
  · intro f g t t' v h
    exact Operation.own_of_eq_nil h
  · intro f g t
    exact ⟨fun a call h => congrFun (Attempt.Call.history_of_isIdle h) t,
      fun m call h => congrFun (Maybe.Call.history_of_isIdle h) t⟩

/-- A judgement before an installation: the installation fails, and the standard classifier
stays. -/
theorem Program.judgement_before_installation :
    let c : Cause := { condition := ⟨0, .io, none⟩ }
    let p : Program := .call (.judge c) (.refuse c) (.refuse c)
      (.call (.install (.byMessage "disk")) (.refuse c) (.refuse c) (.refuse c))
    p.history (Session.start []) =
      [.judged c, .installed (.byMessage "disk") (.error .alreadyActive)] ∧
    (p.run (Session.start [])).2.classifier = some Classifier.standard := by
  intro c p
  have h := p.first_writer_wins (s := Session.start []) rfl
  exact ⟨rfl, h.2.2.2.1⟩

end Fallible
