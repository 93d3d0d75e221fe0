import Fallible.Proofs.Codec.Reading
import Fallible.Proofs.Codec.Renewal
import Fallible.Proofs.Program.Captured
import Fallible.Proofs.Surfacing

/-!
# New conditions are new

Conditions are numbered as they are raised, and a session knows the next number. Of a program that
makes up no condition, a run holds only such as were raised: their numbers are below the next one.
This is the invariant of a run, kept by every operation, and it holds of all that the run leaves to
its caller, however it ends. So what is raised from there on, by raising, by wrapping, by surfacing
or by reading a document, is different from all that was there before.

## Main definitions

* `Condition.LeftBy`: the conditions that a run leaves to its caller
* `Value.RaisedIn`: a run that came to a value raised just the conditions of it

## Main results

* `Program.id_lt_next`: the conditions that a run leaves have been raised
* `Schema.raisedIn_of_decodeBytes`: the conditions of what is read are new
* `Program.raised_apart`: what is new differs from all that was left
-/

namespace Fallible

open Carrier (carries)

variable {σ α : Type}

/-! ## What a run leaves -/

/-- A run leaves a condition to its caller where it stands in an answer that is held in the end, in
what the run answered with, or in the cause that unwound out of it. -/
def Condition.LeftBy (x : Condition) (r : Outcome (Except Cause Value) × Session Live) : Prop :=
  r.2.caller.Holds x ∨ carries r.1 (.condition x)

section Runs

variable {K : Condition → Prop} {s : Session Live}

/-- A safe run leaves conditions that its last session knows. -/
theorem Safe.knows_of_leftBy {body : Body} (h : Safe K body s) {x : Condition}
    (hx : x.LeftBy (body s)) : (body s).2.Knows K x := by
  obtain ⟨a, ha, hx⟩ | hx := hx
  · exact h.sound a ha (.condition x) (Answer.carries_iff.mpr hx)
  · exact h.trusts (.condition x) hx

/-- **The run**: of a program that makes up no condition, every condition that it leaves has been
raised. -/
theorem Program.id_lt_next (p : Program) (hp : p.Draws fun _ => False) {x : Condition}
    (hx : x.LeftBy (p.run (Session.start []))) : x.id < (p.run (Session.start [])).2.next :=
  ((p.secure_run hp _ Session.sound_start).knows_of_leftBy hx).resolve_left id

/-- What is run later may name what was left. -/
theorem Program.id_lt_next_later (p q : Program) (hp : p.Draws fun _ => False)
    (hq : q.Draws fun x => x.LeftBy (p.run (Session.start []))) :
    let first := p.run (Session.start [])
    first.2.next ≤ (q.run first.2).2.next ∧
      ∀ x : Condition, x.LeftBy (q.run first.2) → x.id < (q.run first.2).2.next := by
  intro first
  have hfirst := (p.secure_run hp _ Session.sound_start).sound
  have hs : first.2.Sound fun x => x.LeftBy first := fun a ha =>
    (hfirst a ha).of_knows fun _ hx => hx.elim
  have hsafe := q.secure_run hq first.2 hs
  refine ⟨hsafe.keeps.next_le, fun x hx => ?_⟩
  -- what the later program names was raised even before
  obtain hx | hx := hsafe.knows_of_leftBy hx
  · exact Nat.lt_of_lt_of_le (p.id_lt_next hp hx) hsafe.keeps.next_le
  · exact hx

end Runs

/-! ## What is read -/

section Reading

variable {T : Schema} {room : Nat} {v w : Value} {s s' : Session σ}

/-- A run that came to a value raised its conditions and no others: they have the numbers from the
next one before the run to the next one after it. -/
structure Value.RaisedIn (v : Value) (s s' : Session σ) : Prop where
  ids : v.conditions.map Condition.id = List.range' s.next v.conditions.length
  next : s'.next = s.next + v.conditions.length

namespace Value.RaisedIn

theorem blank (hv : v.causes = []) : v.RaisedIn s s := by
  have hc : v.conditions = [] := by rw [conditions, hv, List.flatMap_nil]
  constructor <;> rw [hc] <;> rfl

theorem congr (h : w.RaisedIn s s') (hc : v.causes = w.causes) : v.RaisedIn s s' := by
  constructor <;> rw [conditions_congr hc]
  · exact h.ids
  · exact h.next

theorem record {r : Record} (hv : v.causes = [r.causeFrom s.next])
    (hn : s'.next = s.next + r.chain.length) : v.RaisedIn s s' := by
  have hc : v.conditions = Record.number s.next r.chain := by
    rw [conditions, hv, List.flatMap_singleton]
    rfl
  constructor <;> rw [hc, Record.length_number]
  · exact Record.ids_number _ _
  · exact hn

theorem cons {vs : List Value} {t : Session σ} (h : v.RaisedIn s t) (hs : (list vs).RaisedIn t s') :
    (list (v :: vs)).RaisedIn s s' := by
  constructor <;> rw [conditions_list_cons, List.length_append]
  · rw [List.map_append, h.ids, hs.ids, h.next, List.range'_append_1]
  · rw [hs.next, h.next, Nat.add_assoc]

/-- Each of the conditions is new. -/
theorem next_le (h : v.RaisedIn s s') {x : Condition} (hx : x ∈ v.conditions) : s.next ≤ x.id := by
  have hid : x.id ∈ v.conditions.map Condition.id := List.mem_map_of_mem hx
  rw [h.ids] at hid
  exact (List.mem_range'_1.mp hid).1

end Value.RaisedIn

theorem Decode.raisedIn_items {read : Json → Run σ (Except DecodeError Value)}
    (hread : ∀ {j v} {s s' : Session σ}, read j s = (.returned (.ok v), s') → v.RaisedIn s s')
    {js : List Json} {vs : List Value} (h : items read js s = (.returned (.ok vs), s')) :
    (Value.list vs).RaisedIn s s' := by
  induction js generalizing s vs with
  | nil =>
    cases h
    exact .blank rfl
  | cons j js ih =>
    obtain ⟨v, ws, t, hj, hjs, rfl⟩ := items_cons_eq_ok_iff.mp h
    exact (hread hj).cons (ih hjs)

/-- **What is read is raised**: the conditions of the value are new, numbered in its order. -/
theorem Schema.raisedIn_of_ofJson {j : Json} (h : T.ofJson room j s = (.returned (.ok v), s')) :
    v.RaisedIn s s' := by
  induction T generalizing room j v s s' with
  | unit =>
    cases j <;> cases h
    exact .blank rfl
  | bool =>
    cases j <;> cases h
    exact .blank rfl
  | integer w =>
    cases j with
    | integer n =>
      obtain ⟨ha, rfl⟩ := Run.pure_eq_returned_iff.mp h
      split at ha <;> cases ha
      exact .blank rfl
    | _ => cases h
  | text | kind =>
    obtain ⟨ha, rfl⟩ := Run.pure_eq_returned_iff.mp h
    obtain ⟨_, -, rfl⟩ := Decode.map_eq_ok_iff.mp ha
    exact .blank rfl
  | cause =>
    obtain ⟨r, -, rfl, rfl⟩ := ofJson_cause_eq_ok_iff.mp h
    exact .record (Value.causes_cause _) rfl
  | option T ih =>
    obtain ⟨-, rfl, rfl⟩ | ⟨-, w, hw, rfl⟩ := ofJson_option_eq_ok_iff.mp h
    · exact .blank rfl
    · exact (ih hw).congr (Value.causes_some w)
  | list T ih =>
    obtain ⟨inner, js, vs, -, -, hvs, rfl⟩ := ofJson_list_eq_ok_iff.mp h
    exact Decode.raisedIn_items ih hvs
  | attempt T ih =>
    obtain ⟨inner, t, -, ⟨-, w, hw, rfl⟩ | ⟨-, hf⟩⟩ := ofJson_attempt_eq_ok_iff.mp h
    · exact (ih hw).congr (Value.causes_success w)
    · obtain ⟨r, -, -, rfl, rfl⟩ := Decode.failure_eq_ok_iff.mp hf
      exact .record (Value.causes_failure _) rfl
  | maybe T ih =>
    obtain ⟨inner, t, w, -, -, hw, rfl⟩ | ⟨-, rfl, rfl⟩ := ofJson_maybe_eq_ok_iff.mp h
    · exact (ih hw).congr (Value.causes_present w)
    · exact .blank rfl

theorem Schema.raisedIn_of_decodeBytes {bytes : ByteArray}
    (h : T.decodeBytes bytes s = (.returned (.ok v), s')) : v.RaisedIn s s' :=
  raisedIn_of_ofJson (decodeBytes_eq_ok_iff.mp h).2

end Reading

/-! ## What is new -/

/-- A cause of a value has its own condition in the value. -/
theorem Value.condition_mem_conditions {v : Value} {c : Cause} (hc : c ∈ v.causes) :
    c.condition ∈ v.conditions :=
  List.mem_flatMap.mpr ⟨c, hc, List.mem_cons_self⟩

/-- **New conditions are new.** Let a fresh process run a program that makes up no condition,
however it ends. Every condition that the run leaves to its caller has been raised, that is, its
number is below the next one; and so it is after every later program, which may name what was left.
So, in every session from there on, a cause that was left is another one than

* a cause that is raised, around another one or over a foreign error, say;
* the causes that surfacing stacks on the cause of a failure;
* the causes of a value that is decoded. -/
theorem Program.raised_apart (p : Program) (hp : p.Draws fun _ => False) :
    let first := p.run (Session.start [])
    (∀ x : Condition, x.LeftBy first → x.id < first.2.next) ∧
    (∀ q : Program, (q.Draws fun x => x.LeftBy first) →
      let later := q.run first.2
      first.2.next ≤ later.2.next ∧ ∀ x : Condition, x.LeftBy later → x.id < later.2.next) ∧
    ∀ (σ : Type) (s : Session σ), first.2.next ≤ s.next →
      ∀ d : Cause, d.condition.LeftBy first →
        (∀ kind message, ∃ c s',
          Cause.raise kind message s = (.returned c, s') ∧ (c == d) = false) ∧
        (∀ kind e, ∃ c s', Cause.wrap kind e s = (.returned c, s') ∧ (c == d) = false) ∧
        (∀ kind error, ∃ c s', Cause.adopt kind error s = (.returned c, s') ∧ (c == d) = false) ∧
        (∀ (α : Type) (P : Policy) (c : Captured) n, s.inEffect = P.classifier →
          P.isFatal .nonFatal = false → ∃ e fresh s',
            Attempt.surfacing n (.failure c : Attempt α) s = (.returned (.failure e), s') ∧
            e.cause.stack = fresh ++ c.cause.stack ∧ ∀ b ∈ fresh, (b == d) = false) ∧
        ∀ (T : Schema) bytes v s', T.decodeBytes bytes s = (.returned (.ok v), s') →
          ∀ c ∈ v.causes, (c == d) = false := by
  intro first
  refine ⟨fun x => p.id_lt_next hp, fun q hq => p.id_lt_next_later q hp hq, ?_⟩
  intro σ s hs d hd
  have hlt : d.id < s.next := Nat.lt_of_lt_of_le (p.id_lt_next hp hd) hs
  -- causes are compared by their numbers
  have apart {c : Cause} (hc : s.next ≤ c.id) : (c == d) = false := by
    show (c.id == d.id) = false
    exact beq_eq_false_iff_ne.mpr (Nat.ne_of_gt (Nat.lt_of_lt_of_le hlt hc))
  refine ⟨fun kind message => ⟨_, _, rfl, apart (Nat.le_refl _)⟩,
    fun kind e => ⟨_, _, rfl, apart (Nat.le_refl _)⟩,
    fun kind error => ⟨_, _, rfl, apart (Nat.le_refl _)⟩, ?_, ?_⟩
  · intro α P c n hP hf
    obtain ⟨e, fresh, s', he, hstack, -, hids, -⟩ := Attempt.surfacing_failure (α := α) hP hf n c
    exact ⟨e, fresh, s', he, hstack, fun b hb => apart (Attempt.le_id_of_ids hids b hb)⟩
  · intro T bytes v s' h c hc
    exact apart ((Schema.raisedIn_of_decodeBytes h).next_le (Value.condition_mem_conditions hc))

/-- A program that raises a condition and answers with the cause that it then holds: what is raised
after it is another one. -/
theorem Program.answered_apart :
    let stop : Program := .answer ⟨fun _ => .unit, fun _ _ h => absurd h (Value.not_carries rfl)⟩
    let p : Program := .call (.raise .io none) stop stop <| .look fun live =>
      match live with
      | .ok (.cause c) :: _ => .refuse c
      | _ => stop
    let first := p.run (Session.start [])
    (p.Draws fun _ => False) ∧ ∃ d, first.1 = .returned (.error d) ∧
      ∃ c s', Cause.raise .io none first.2 = (.returned c, s') ∧ (c == d) = false := by
  intro stop p first
  have hstop (K : Condition → Prop) : stop.Draws K := fun _ _ hx => nomatch hx
  have hp : p.Draws fun _ => False := by
    refine ⟨⟨nofun, nofun⟩, hstop _, hstop _, fun live => ?_⟩
    -- the cause that is named stands in the answer that is looked at
    rcases live with _ | ⟨_ | v, rest⟩
    · exact hstop _
    · exact hstop _
    · cases v with
      | cause c =>
        intro x hx
        have hc : carries (Value.cause c) (.condition x) := Value.carries_cause_iff.mpr hx
        exact .inr ⟨_, List.mem_cons_self, hc⟩
      | _ => exact hstop _
  have hleft : (⟨0, .io, none⟩ : Condition).LeftBy first := .inr List.mem_cons_self
  obtain ⟨-, -, hapart⟩ := p.raised_apart hp
  obtain ⟨hraise, -⟩ := hapart Live first.2 (Nat.le_refl _) { condition := ⟨0, .io, none⟩ } hleft
  exact ⟨hp, _, rfl, hraise .io none⟩

end Fallible
