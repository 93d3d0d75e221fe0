import Fallible.Proofs.Codec.Record
import Fallible.Proofs.Program.Safe

/-!
# What operations are made of is safe

An operation is given values and causes, and it names no condition but those that the caller knows
if these do not. What it does without a function is safe in every sound session: it raises, judges
or reads, and what it answers was raised by then and judged by the classifier that it leaves in
effect. A document is no way around the judgement, since the cause of a failure is judged as it is
read, and every cause that is read is new. Running a function is safe where the function is.

## Main definitions

* `Recipe.Draws`, `Operation.Draws`, `Program.Draws`: values, operations and programs that make up
  no condition
* `Body.Secure`: caller code that is safe in every sound session

## Main results

* `Schema.safe_ofJson`: what a document is read as was judged
* `Body.preserves_checked`, `Body.preserves_plain`: caller code as a function
-/

namespace Fallible

open Carrier (carries)

variable {α β γ : Type} {K : Condition → Prop}

/-! ## What else carries something, or nothing -/

namespace Carrier

instance : Carrier Captured.Refusal :=
  ⟨fun r m => carries r.cause m⟩

instance : Carrier Classifier :=
  ⟨fun _ _ => False⟩

instance : Carrier Classifier.InstallError :=
  ⟨fun _ _ => False⟩

instance : Carrier Policy :=
  ⟨fun _ _ => False⟩

instance : Carrier Config :=
  ⟨fun _ _ => False⟩

instance : Carrier Config.Error :=
  ⟨fun _ _ => False⟩

end Carrier

/-! ## Answers -/

namespace Answer

variable [Carrier α] {m : Mark}

theorem carries_ofResult {embed : α → Value} {r : Except Cause α}
    (h : ∀ a, carries (embed a) m → carries a m) (hm : carries (ofResult embed r) m) :
    carries r m := by
  cases r with
  | ok a => exact h a hm
  | error c => exact Value.carries_cause_iff.mp hm

/-- Where no value that is answered with carries anything, the answer carries no more than the cause
that may come in its place. -/
theorem carries_ofResult_blank {embed : α → Value} {r : Except Cause α}
    (h : ∀ a, (embed a).causes = []) (hm : carries (ofResult embed r) m) : carries r m :=
  carries_ofResult (fun a hm => absurd hm (Value.not_carries (h a))) hm

theorem carries_ofSwapped {t : Attempt Cause} (hm : carries (ofSwapped t) m) : carries t m := by
  cases t with
  | success c => exact Value.carries_cause_iff.mp hm
  | failure c => exact Value.carries_failure_iff.mp hm

theorem carries_ofSum {r : Value ⊕ Value} (hm : carries (ofSum r) m) : carries r m := by
  cases r with
  | inl v => exact hm
  | inr v => exact hm

end Answer

/-! ## What a program names -/

/-- A condition stands in an answer that is held. -/
def Live.Holds (live : Live) (x : Condition) : Prop :=
  ∃ a ∈ live, x ∈ a.value.conditions

/-- A recipe draws on the conditions of the answers held, and on those that the caller brought
along. -/
def Recipe.Draws (r : Recipe) (K : Condition → Prop) : Prop :=
  ∀ live, ∀ x ∈ (r.make live).conditions, K x ∨ live.Holds x

/-- The values that a call on an attempt is given. -/
def Attempt.Call.recipes : Attempt.Call → List Recipe
  | getOrElse other => [other]
  | _ => []

/-- The values that a call on a maybe is given. -/
def Maybe.Call.recipes : Maybe.Call → List Recipe
  | getOrElse other => [other]
  | _ => []

namespace Operation

/-- The values that an operation is given. -/
def recipes : Operation → List Recipe
  | make r | ofResult _ r | lift r | andThen r | compose r | negate r | and r | or r | followedBy r
  | ofOption r | encode r => [r]
  | onAttempt r call => r :: call.recipes
  | onMaybe r call => r :: call.recipes
  | _ => []

/-- The causes that an operation is given. -/
def named : Operation → List Cause
  | wrap _ c | throw c | judge c | ofCause c | capture c | rethrow c | fail c => [c]
  | _ => []

/-- The causes that an operation is given have conditions that the caller knows. -/
structure Draws (op : Operation) (K : Condition → Prop) : Prop where
  recipes : ∀ r ∈ op.recipes, r.Draws K
  named : ∀ c ∈ op.named, ∀ x ∈ c.chain, K x

end Operation

/-- A program makes up no condition: all those that it names are among the conditions that the
caller brought along, or in an answer that the program looked at before. -/
def Program.Draws : Program → (Condition → Prop) → Prop
  | answer r, K => r.Draws K
  | refuse c, K => ∀ x ∈ c.chain, K x
  | look next, K => ∀ live : Live, (next live).Draws fun x => K x ∨ live.Holds x
  | call op f g next, K => op.Draws K ∧ f.Draws K ∧ g.Draws K ∧ next.Draws K

/-- A caller who may bring along any condition makes up none. -/
theorem Program.draws_of_forall (p : Program) (hK : ∀ x, K x) : p.Draws K := by
  have recipe (r : Recipe) : r.Draws K := fun _ x _ => .inl (hK x)
  induction p generalizing K with
  | answer r => exact recipe r
  | refuse c => exact fun x _ => hK x
  | look next ih =>
    exact fun live => ih live (fun x => .inl (hK x)) fun _ _ x _ => .inl (.inl (hK x))
  | call op f g next hf hg hn =>
    exact ⟨⟨fun r _ => recipe r, fun _ _ x _ => hK x⟩, hf hK recipe, hg hK recipe, hn hK recipe⟩

/-! ## Caller code -/

/-- Caller code is secure when it is safe in every sound session. -/
def Body.Secure (K : Condition → Prop) (body : Body) : Prop :=
  ∀ s : Session Live, s.Sound K → Safe K body s

/-- An answer carries what its value carries. -/
theorem Answer.carries_iff {a : Answer} {m : Mark} : carries a m ↔ carries a.value m := by
  cases a <;> exact Iff.rfl

namespace Session

variable {σ : Type} {K' : Condition → Prop} {s : Session σ}

/-- A cause is trusted where the caller knows its conditions. -/
theorem trusts_of_forall {c : Cause} (hc : ∀ x ∈ c.chain, K x) : s.Trusts K c := by
  rintro (x | d) hm
  · exact .inl (hc x hm)
  · exact hm.elim

/-- What is trusted with more conditions of the caller's is trusted with fewer, if those are known
anyway. -/
theorem Trusts.of_knows [Carrier α] {a : α} (h : s.Trusts K' a)
    (hK : ∀ x, K' x → s.Knows K x) : s.Trusts K a := by
  rintro (x | c) hm
  · exact (h (.condition x) hm).elim (hK x) .inr
  · exact h (.captured c) hm

end Session

namespace Body

variable [Carrier α] {s : Session Live} {view : View α} {body : Body}

theorem safe_hold (hs : s.Sound K) {a : Answer} (ha : s.Trusts K a) : Safe K (hold a) s := by
  refine ⟨.of_eq rfl (Nat.le_refl _), ?_, fun _ hm => hm.elim⟩
  rintro b (_ | ⟨_, hb⟩)
  · exact ha
  · exact hs b hb

theorem safe_held (hs : s.Sound K) : Safe K held s := by
  refine .of_caller_eq hs (.of_eq rfl (Nat.le_refl _)) rfl ?_
  rintro m ⟨a, ha, hm⟩
  exact hs a ha m hm

theorem safe_see (hs : s.Sound K) {v : Value} (hv : s.Trusts K v) : Safe K (see view v) s := by
  rw [see]
  cases h : view.read v with
  | some a => exact Safe.pure hs (hv.of_carries fun _ hm => view.honest h hm)
  | none => exact Safe.panic hs _

/-- What a recipe makes of answers that are trusted is trusted. -/
theorem trusts_make {r : Recipe} (hr : r.Draws K) {live : Live} (hl : s.Trusts K live) :
    s.Trusts K (r.make live) := by
  rintro (x | c) hm
  · obtain hx | ⟨a, ha, hx⟩ := hr live x hm
    · exact .inl hx
    · exact hl (.condition x) ⟨a, ha, Answer.carries_iff.mpr hx⟩
  · exact hl (.captured c) (r.honest live c hm)

theorem safe_receive (hs : s.Sound K) {r : Recipe} (hr : r.Draws K) : Safe K (receive view r) s :=
  (safe_held hs).bind fun _ _ _ hs hl => safe_see hs (trusts_make hr hl)

theorem preserves_checked (hb : body.Secure K) : Preserves K (checked view body) := by
  intro s v hs hv
  refine (safe_hold hs hv).bind fun _ s' _ hs _ => ?_
  refine (hb s' hs).bind_ok (fun w s'' _ hs hw => ?_) fun _ => rfl
  exact (safe_see hs hw).bind fun a _ _ hs ha => Safe.pure hs ha

theorem preserves_plain (hb : body.Secure K) : Preserves K (plain view body) := by
  intro s v hs hv
  refine (preserves_checked hb s v hs hv).bind fun r _ _ hs hr => ?_
  cases r with
  | ok a => exact Safe.pure hs hr
  | error c => exact Safe.throw hs hr

/-- An argument that holds no cause is trusted. -/
theorem trusts_unit : s.Trusts K Value.unit :=
  fun _ hm => absurd hm (Value.not_carries rfl)

theorem trusts_cause {c : Cause} (hc : s.Trusts K c) : s.Trusts K (Value.cause c) :=
  hc.of_carries fun _ => Value.carries_cause_iff.mp

end Body

/-! ## Judging and installing -/

section Judging

variable {s : Session Live} {c : Cause}

theorem Safe.emit (hs : s.Sound K) (e : Event) : Safe K (Run.emit e) s :=
  .of_caller_eq hs (.of_eq rfl (Nat.le_refl _)) rfl fun _ hm => hm.elim

theorem Safe.active (hs : s.Sound K) : Safe K Classifier.active s := by
  refine .of_caller_eq hs ?_ ?_ ?_ <;> rw [Classifier.active_apply]
  · exact s.keeps_decided
  · rfl
  · exact fun _ hm => hm.elim

theorem Safe.judge (hs : s.Sound K) (c : Cause) : Safe K c.judge s :=
  (active hs).bind fun _ _ _ hs _ => Safe.pure hs fun _ hm => hm.elim

theorem Safe.ofCause (hs : s.Sound K) (hc : s.Trusts K c) : Safe K (Captured.ofCause c) s := by
  have hk := s.keeps_decided
  refine .of_caller_eq hs ?_ ?_ ?_ <;> rw [Captured.ofCause_apply]
  · exact hk
  · rfl
  · cases h : s.inEffect.isFatal c with
    | true => exact hc.mono hk
    | false =>
      rintro (x | d) hm
      · exact hc.mono hk (.condition x) hm
      · rw [show d = ⟨c⟩ from hm]
        exact ⟨s.inEffect, rfl, h⟩

/-- Installing leaves a classifier alone that is in effect. -/
theorem Safe.install (hs : s.Sound K) (k : Classifier) : Safe K k.install s := by
  have blank : ∀ (r : Except Classifier.InstallError Unit) (s' : Session Live),
      s'.Trusts K (Outcome.returned r) := by
    rintro (_ | _) s' m hm <;> exact hm.elim
  rcases h : s.classifier with _ | l
  -- where there is none, there is none to keep
  · refine .of_caller_eq hs ⟨?_, ?_⟩ ?_ ?_ <;> rw [Classifier.install_apply, h]
    · exact nofun
    · exact Nat.le_refl _
    · rfl
    · exact blank _ _
  · refine .of_caller_eq hs ?_ ?_ ?_ <;> rw [Classifier.install_apply, h]
    · exact .refl s
    · exact blank _ _

end Judging

/-! ## Reading documents -/

section Reading

variable {s : Session Live}

/-- An answer that was read may be changed into one that carries no more. -/
theorem Session.Trusts.map [Carrier α] [Carrier β] {r : Except DecodeError α}
    (hr : s.Trusts K r) (f : α → β) (hf : ∀ a m, carries (f a) m → carries a m) :
    s.Trusts K (f <$> r) := by
  cases r with
  | ok a => exact hr.of_carries (hf a)
  | error e => exact hr

/-- What is read without a cause is trusted. -/
theorem Session.trusts_scalar {r : Except DecodeError α} {f : α → Value}
    (hf : ∀ a, (f a).causes = []) : s.Trusts K (f <$> r) := by
  intro m hm
  cases r with
  | ok a => exact absurd hm (Value.not_carries (hf a))
  | error e => exact hm.elim

theorem Safe.only {r : Except DecodeError Value} (hs : s.Sound K) (hr : s.Trusts K r)
    (isAlone : Bool) : Safe K (Pure.pure (Decode.only isAlone r)) s := by
  refine Safe.pure hs ?_
  cases r with
  | error e => exact hr
  | ok v =>
    cases isAlone with
    | true => exact hr
    | false => exact fun _ hm => hm.elim

/-- **What is read is raised**: its conditions are new, each with the next number. -/
theorem Safe.record (hs : s.Sound K) (r : Record) : Safe K r.raise s := by
  refine .of_caller_eq hs ?_ ?_ ?_ <;> rw [Record.raise_apply]
  · exact .of_eq rfl (Nat.le_add_right _ _)
  · rintro (x | d) hm
    · have hx : x.id ∈ (Record.number s.next r.chain).map Condition.id := List.mem_map_of_mem hm
      rw [Record.ids_number] at hx
      exact .inr (List.mem_range'_1.mp hx).2
    · exact hm.elim

/-- **A failure is read through a judgement.** -/
theorem Decode.safe_failure (hs : s.Sound K) (room : Nat) (j : Json) :
    Safe K (Decode.failure room j) s := by
  rw [Decode.failure]
  cases Record.ofJson room j with
  | error e => exact Safe.pure hs fun _ hm => hm.elim
  | ok record =>
    refine (Safe.record hs record).bind fun c _ _ hs hc => ?_
    refine (Safe.ofCause hs hc).bind fun r _ _ hs hr => ?_
    cases r with
    | ok d =>
      -- the failure that is read carries just what was judged
      exact Safe.pure hs (hr.of_carries fun _ => Value.carries_failure_iff.mp)
    | error refusal => exact Safe.pure hs fun _ hm => hm.elim

theorem Decode.safe_items {read : Json → Run Live (Except DecodeError Value)}
    (hread : ∀ (s : Session Live) j, s.Sound K → Safe K (read j) s) (hs : s.Sound K)
    (js : List Json) : Safe K (Decode.items read js) s := by
  induction js generalizing s with
  | nil => exact Safe.pure hs fun _ ⟨_, hv, _⟩ => nomatch hv
  | cons j js ih =>
    refine (hread s j hs).bind fun r s' _ hs hr => ?_
    cases r with
    | error e => exact Safe.pure hs fun _ hm => hm.elim
    | ok v =>
      -- what was read first is still trusted after the other items
      refine (ih hs).bind fun rs s'' hk hs hrs => Safe.pure hs ?_
      cases rs with
      | error e => exact hrs
      | ok vs =>
        rintro m ⟨w, hw, hm⟩
        obtain rfl | hw := List.mem_cons.mp hw
        · exact (hr.mono hk) m hm
        · exact hrs m ⟨w, hw, hm⟩

theorem Safe.refused (hs : s.Sound K) (e : DecodeError) :
    Safe K (Pure.pure (.error e : Except DecodeError Value)) s :=
  Safe.pure hs fun _ hm => hm.elim

theorem Safe.blank (hs : s.Sound K) {v : Value} (hv : v.causes = []) :
    Safe K (Pure.pure (.ok v : Except DecodeError Value)) s :=
  Safe.pure hs fun _ hm => absurd hm (Value.not_carries hv)

/-- **What a document is read as was judged**, whatever the schema and whatever the document, and
was raised as it was read. -/
theorem Schema.safe_ofJson (schema : Schema) (room : Nat) (j : Json) (hs : s.Sound K) :
    Safe K (schema.ofJson room j) s := by
  induction schema generalizing room j s with
  | unit =>
    cases j with
    | null => exact Safe.blank hs rfl
    | _ => exact Safe.refused hs _
  | bool =>
    cases j with
    | bool b => exact Safe.blank hs rfl
    | _ => exact Safe.refused hs _
  | integer w =>
    cases j with
    | integer n =>
      simp only [Schema.ofJson]
      split
      · exact Safe.blank hs rfl
      · exact Safe.refused hs _
    | _ => exact Safe.refused hs _
  | text => exact Safe.pure hs (Session.trusts_scalar fun _ => rfl)
  | kind => exact Safe.pure hs (Session.trusts_scalar fun _ => rfl)
  | cause =>
    simp only [Schema.ofJson]
    cases Record.ofJson room j with
    | error e => exact Safe.refused hs e
    | ok record =>
      exact (Safe.record hs record).bind fun c _ _ hs hc =>
        Safe.pure hs (hc.of_carries fun _ => Value.carries_cause_iff.mp)
  | option schema ih =>
    cases j with
    | null => exact Safe.blank hs rfl
    | _ => exact (ih room _ hs).bind fun _ _ _ hs hr => Safe.pure hs (hr.map _ fun _ _ hm => hm)
  | list schema ih =>
    cases j with
    | array js =>
      cases room with
      | zero => exact Safe.refused hs _
      | succ room =>
        refine (Decode.safe_items (fun s j hs => ih room j hs) hs js).bind fun r _ _ hs hr => ?_
        exact Safe.pure hs (hr.map _ fun _ _ => Value.carries_list_iff.mp)
    | _ => exact Safe.refused hs _
  | attempt schema ih =>
    simp only [Schema.ofJson]
    split
    · exact Safe.refused hs _
    · exact Safe.refused hs _
    · split
      · exact (ih _ _ hs).bind fun _ _ _ hs hr => Safe.only hs (hr.map .success fun _ _ hm => hm) _
      · exact (Decode.safe_failure hs _ _).bind fun _ _ _ hs hr => Safe.only hs hr _
  | maybe schema ih =>
    simp only [Schema.ofJson]
    split
    · exact Safe.refused hs _
    · split
      · exact Safe.blank hs rfl
      · exact Safe.refused hs _
    · split
      · exact (ih _ _ hs).bind fun _ _ _ hs hr => Safe.only hs (hr.map .present fun _ _ hm => hm) _
      · exact Safe.only hs (Session.trusts_scalar fun _ => rfl) _

theorem Schema.safe_decodeBytes (schema : Schema) (bytes : ByteArray) (hs : s.Sound K) :
    Safe K (schema.decodeBytes bytes) s := by
  refine (schema.safe_ofJson _ _ hs).bind fun r _ _ hs hr => ?_
  cases r with
  | error e => exact Safe.refused hs _
  | ok v =>
    refine Safe.pure hs ?_
    split
    · exact hr
    · exact fun _ hm => hm.elim

end Reading

/-! ## Unwinding, configuring and composing -/

section Composing

variable [Carrier α] [Carrier β] {s : Session Live}

/-- A run that ends otherwise, with no more, in the session that a safe run leaves. -/
theorem Safe.of_session_eq {m : Run Live α} (hm : Safe K m s) {m' : Run Live β}
    (h : (m' s).2 = (m s).2) (ha : ∀ x, carries (m' s).1 x → carries (m s).1 x) : Safe K m' s := by
  obtain ⟨hk, hs, ht⟩ := hm
  refine ⟨?_, ?_, ?_⟩ <;> rw [h]
  · exact hk
  · exact hs
  · exact ht.of_carries ha

theorem Safe.catching {m : Run Live α} (hm : Safe K m s) : Safe K (Run.catching m) s := by
  refine hm.of_session_eq ?_ ?_ <;> unfold Run.catching <;> rcases m s with ⟨a | c | text, s'⟩
  case refine_1.returned | refine_1.thrown | refine_1.panicked => rfl
  -- a cause that unwinds is answered with, and any other panic goes on
  case refine_2.returned | refine_2.thrown | refine_2.panicked => exact fun _ hx => hx

/-- Code under the protection of the host, which makes an answer of whatever unwinds. -/
theorem Body.safe_shielded {body : Body} (hm : Safe K body s) : Safe K body.shielded s := by
  refine hm.of_session_eq ?_ ?_ <;> unfold shielded <;> rcases body s with ⟨r | c | text, s'⟩
  case refine_1.returned | refine_1.thrown | refine_1.panicked => rfl
  case refine_2.returned => exact fun _ => Answer.carries_ofResult fun _ hx => hx
  case refine_2.thrown => exact fun _ => Value.carries_cause_iff.mp
  case refine_2.panicked => exact fun _ hx => absurd hx (Value.not_carries rfl)

theorem Safe.load (hs : s.Sound K) (h : Host) : Safe K (Config.load h) s := by
  have answer : ∀ r : Except Config.Error (Option Config), s.Trusts K r := by
    rintro (_ | _ | _) m hm <;> exact hm.elim
  -- an error in reading or parsing is reported before it is answered
  have report : ∀ (e : Event) (error : Config.Error),
      Safe K (do Run.emit e; Pure.pure (.error error : Except Config.Error (Option Config))) s :=
    fun e error => (Safe.emit hs e).bind fun _ _ _ hs _ => Safe.pure hs fun _ hm => hm.elim
  rw [Config.load]
  split
  · exact Safe.pure hs (answer _)
  · rw [Config.loadFrom]
    split
    · exact Safe.pure hs (answer _)
    · split
      · exact report _ _
      · split
        · exact report _ _
        · exact Safe.pure hs (answer _)

theorem Safe.configure (hs : s.Sound K) (h : Host) : Safe K (Config.install h) s := by
  refine (Safe.load hs h).bind fun r _ _ hs _ => ?_
  match r with
  | .error error => exact Safe.pure hs fun _ hm => hm.elim
  | .ok none =>
    exact (Safe.emit hs _).bind fun _ _ _ hs _ => Safe.pure hs fun _ hm => hm.elim
  | .ok (some config) =>
    refine (Safe.install hs _).bind fun r _ _ hs _ => ?_
    cases r with
    | error error => exact Safe.pure hs fun _ hm => hm.elim
    | ok _ => exact Safe.pure hs fun _ hm => hm.elim

end Composing

namespace Checked

variable [Carrier α] [Carrier β] [Carrier γ]

theorem preserves_andThen {f : Checked Live α β} {after : Checked Live β γ}
    (hf : Preserves K f) (hg : Preserves K after) : Preserves K (f.andThen after) := by
  intro s a hs ha
  exact (hf s a hs ha).bind_ok (fun b s' _ hs hb => hg s' b hs hb) fun _ => rfl

theorem preserves_compose {f : Checked Live β γ} {before : Checked Live α β}
    (hf : Preserves K f) (hg : Preserves K before) : Preserves K (f.compose before) :=
  preserves_andThen hg hf

end Checked

namespace Predicate

variable [Carrier α] {p q : Predicate Live α}

theorem preserves_negate (hp : Preserves K p) : Preserves K p.negate := by
  intro s a hs ha
  exact (hp s a hs ha).bind_ok (fun _ _ _ hs hb => Safe.pure hs hb) fun _ => rfl

theorem preserves_and (hp : Preserves K p) (hq : Preserves K q) : Preserves K (p.and q) := by
  intro s a hs ha
  refine (hp s a hs ha).bind_ok (fun b s' hk hs hb => ?_) fun _ => rfl
  cases b with
  | true => exact hq s' a hs (ha.mono hk)
  | false => exact Safe.pure hs hb

theorem preserves_or (hp : Preserves K p) (hq : Preserves K q) : Preserves K (p.or q) := by
  intro s a hs ha
  refine (hp s a hs ha).bind_ok (fun b s' hk hs hb => ?_) fun _ => rfl
  cases b with
  | true => exact Safe.pure hs hb
  | false => exact hq s' a hs (ha.mono hk)

end Predicate

theorem Consumer.preserves_followedBy [Carrier α] {first after : Consumer Live α}
    (hf : Preserves K first) (hg : Preserves K after) : Preserves K (first.followedBy after) := by
  intro s a hs ha
  exact (hf s a hs ha).bind_ok (fun _ s' hk hs _ => hg s' a hs (ha.mono hk)) fun _ => rfl

end Fallible
