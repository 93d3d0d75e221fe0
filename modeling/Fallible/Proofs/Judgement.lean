import Fallible.Attempt
import Fallible.Proofs.Descent

/-!
# Judging and capturing, in one equation each

What asking for the classifier, judging a cause, capturing it and unwinding with it do to a session.
A judgement goes by the classifier in effect, or by the standard one if there is none, and leaves
that one in effect. Everything else that the library says about capturing rests on these equations.

## Main definitions

* `Session.inEffect`, `Session.decided`: the classifier that a judgement goes by, and the session it
  leaves
* `Session.reporting`: a session after one more event

## Main results

* `Run.bind_eq_returned_iff`: runs that returned, one after the other
* `Captured.ofCause_apply`, `Captured.capture_apply`: the two ways to a captured cause
* `Attempt.fail_of_not_fatal`, `Attempt.fail_of_fatal`: a failure, and what unwinds in its place
* `Classifier.install_apply`: installing changes a session only where there is no classifier yet
-/

namespace Fallible

variable {σ α β : Type}

/-! ## Sessions -/

namespace Session

/-- The classifier that the next judgement goes by. -/
def inEffect (s : Session σ) : Classifier :=
  s.classifier.getD Classifier.standard

/-- The session that a judgement leaves: there is a classifier in effect. -/
def decided (s : Session σ) : Session σ :=
  { s with classifier := some s.inEffect }

/-- The session after one more event. -/
def reporting (s : Session σ) (e : Event) : Session σ :=
  { s with events := s.events ++ [e] }

@[simp] theorem decided_classifier (s : Session σ) : s.decided.classifier = some s.inEffect := rfl

theorem inEffect_of_eq_some {s : Session σ} {k : Classifier} (h : s.classifier = some k) :
    s.inEffect = k := by
  rw [inEffect, h]
  rfl

/-- Where there is a classifier already, a judgement changes nothing. -/
theorem decided_of_eq_some {s : Session σ} {k : Classifier} (h : s.classifier = some k) :
    s.decided = s := by
  rw [decided, inEffect_of_eq_some h, ← h]

end Session

/-! ## Running -/

namespace Run

/-- What comes after a run that returned. -/
theorem bind_of_returned {m : Run σ α} {s s' : Session σ} {a : α} (f : α → Run σ β)
    (h : m s = (.returned a, s')) : (m >>= f) s = f a s' := by
  rw [bind_apply, h]

/-- What comes next changes nothing if it passes on all that a run may return. -/
theorem bind_apply_of_forall_passes {m : Run σ α} {f : α → Run σ α} {s : Session σ}
    (h : ∀ a s', m s = (.returned a, s') → f a s' = (.returned a, s')) : (m >>= f) s = m s := by
  rw [bind_apply]
  rcases hm : m s with ⟨a | c | text, s'⟩
  · exact h a s' hm
  · rfl
  · rfl

theorem map_apply (f : α → β) (m : Run σ α) (s : Session σ) :
    (f <$> m) s = match m s with
      | (.returned a, s) => (.returned (f a), s)
      | (.thrown c, s) => (.thrown c, s)
      | (.panicked text, s) => (.panicked text, s) :=
  rfl

/-- What is made of the answer of a run that returned. -/
theorem map_of_returned {m : Run σ α} {s s' : Session σ} {a : α} (f : α → β)
    (h : m s = (.returned a, s')) : (f <$> m) s = (.returned (f a), s') := by
  rw [map_apply, h]

theorem pure_eq_returned_iff {a b : α} {s s' : Session σ} :
    (pure a : Run σ α) s = (.returned b, s') ↔ a = b ∧ s = s' := by
  rw [pure_apply, Prod.mk.injEq, Outcome.returned.injEq]

/-- A run that returned is one that returned and then another that did. -/
theorem bind_eq_returned_iff {m : Run σ α} {f : α → Run σ β} {b : β} {s s' : Session σ} :
    (m >>= f) s = (.returned b, s') ↔
      ∃ a t, m s = (.returned a, t) ∧ f a t = (.returned b, s') := by
  constructor
  · intro h
    rw [bind_apply] at h
    rcases hm : m s with ⟨a | c | text, t⟩ <;> rw [hm] at h
    · exact ⟨a, t, rfl, h⟩
    · cases h
    · cases h
  · rintro ⟨a, t, hm, hf⟩
    rw [bind_of_returned f hm, hf]

theorem bind_pure_eq_returned_iff {m : Run σ α} {f : α → β} {b : β} {s s' : Session σ} :
    (m >>= fun a => pure (f a)) s = (.returned b, s') ↔
      ∃ a, m s = (.returned a, s') ∧ f a = b := by
  rw [bind_eq_returned_iff]
  constructor
  · rintro ⟨a, t, hm, h⟩
    obtain ⟨hb, rfl⟩ := pure_eq_returned_iff.mp h
    exact ⟨a, hm, hb⟩
  · rintro ⟨a, hm, rfl⟩
    exact ⟨a, s', hm, rfl⟩

@[simp] theorem emit_apply (e : Event) (s : Session σ) :
    emit e s = (.returned (), s.reporting e) := rfl

@[simp] theorem throw_apply (c : Cause) (s : Session σ) :
    (throw c : Run σ α) s = (.thrown c, s) := rfl

@[simp] theorem panic_apply (text : String) (s : Session σ) :
    (panic text : Run σ α) s = (.panicked text, s) := rfl

end Run

/-! ## Judging and capturing -/

/-- A cause of a listed kind is fatal. -/
theorem Policy.isFatal_of_mem {p : Policy} {c : Cause} (h : c.kind ∈ p.kinds) :
    p.classifier.isFatal c = true :=
  List.any_eq_true.mpr ⟨c.kind, h, c.kind.isA_self⟩

theorem Classifier.active_apply (s : Session σ) :
    Classifier.active s = (.returned s.inEffect, s.decided) := by
  simp only [Classifier.active, Run.bind_apply, Run.classifier?]
  cases h : s.classifier with
  | some k =>
    rw [Session.inEffect_of_eq_some h, Session.decided_of_eq_some h]
    rfl
  | none =>
    rw [Session.decided, Session.inEffect, h]
    rfl

/-- Installing puts a classifier into effect and reports it, but only where there is none. -/
theorem Classifier.install_apply (k : Classifier) (s : Session σ) :
    k.install s = match s.classifier with
      | some _ => (.returned (.error .alreadyActive), s)
      | none => (.returned (.ok ()), { s with classifier := some k }.reporting (.installed k)) := by
  simp only [Classifier.install, Run.bind_apply, Run.classifier?]
  cases h : s.classifier <;> rfl

theorem Cause.judge_apply (c : Cause) (s : Session σ) :
    c.judge s = (.returned (s.inEffect.isFatal c), s.decided) := by
  rw [Cause.judge, Run.bind_apply, Classifier.active_apply]
  rfl

theorem Cause.rethrow_apply (c : Cause) (s : Session σ) :
    (c.rethrow : Run σ α) s = (.thrown c, s.reporting (.escaping c)) := rfl

namespace Captured

theorem ofCause_apply (c : Cause) (s : Session σ) :
    ofCause c s =
      (.returned (if s.inEffect.isFatal c then .error ⟨c⟩ else .ok ⟨c⟩), s.decided) := by
  rw [ofCause, Run.bind_apply, Cause.judge_apply]
  cases h : s.inEffect.isFatal c
  · simp [Run.pure_apply]
  · simp [Run.pure_apply]

/-- A fatal cause unwinds as it is and is reported as escaping; any other one is captured as it is
and reported as captured. -/
theorem capture_apply (c : Cause) (s : Session σ) :
    capture c s =
      if s.inEffect.isFatal c then (.thrown c, s.decided.reporting (.escaping c))
      else (.returned ⟨c⟩, s.decided.reporting (.captured c)) := by
  rw [capture, Run.bind_apply, ofCause_apply]
  cases h : s.inEffect.isFatal c
  · simp [Run.bind_apply, Run.pure_apply]
  · simp [Cause.rethrow_apply]

theorem capture_of_fatal {c : Cause} {s : Session σ} (h : s.inEffect.isFatal c = true) :
    capture c s = (.thrown c, s.decided.reporting (.escaping c)) := by
  rw [capture_apply, if_pos h]

theorem capture_of_not_fatal {c : Cause} {s : Session σ} (h : s.inEffect.isFatal c = false) :
    capture c s = (.returned ⟨c⟩, s.decided.reporting (.captured c)) := by
  rw [capture_apply, h]
  rfl

end Captured

/-! ## Failing -/

namespace Attempt

theorem fail_of_not_fatal {c : Cause} {s : Session σ} (h : s.inEffect.isFatal c = false) :
    (fail c : Run σ (Attempt α)) s =
      (.returned (.failure ⟨c⟩), s.decided.reporting (.captured c)) := by
  rw [fail, Run.map_apply, Captured.capture_of_not_fatal h]

theorem fail_of_fatal {c : Cause} {s : Session σ} (h : s.inEffect.isFatal c = true) :
    (fail c : Run σ (Attempt α)) s = (.thrown c, s.decided.reporting (.escaping c)) := by
  rw [fail, Run.map_apply, Captured.capture_of_fatal h]

/-- What passes failures on runs nothing after a cause: it is captured and passed on, or unwinds. -/
theorem fail_bind {f : Attempt α → Run σ (Attempt β)} (hf : ∀ d, f (.failure d) = pure (.failure d))
    (c : Cause) : (fail c >>= f) = fail c := by
  rw [fail, bind_map_left, fail, map_eq_pure_bind]
  exact bind_congr hf

/-- A cause that a failure captured is non-fatal, and the failure keeps it as it is. -/
theorem eq_failure_of_fail {c : Cause} {t : Attempt α} {s s' : Session σ}
    (h : fail c s = (.returned t, s')) : t = .failure ⟨c⟩ ∧ s.inEffect.isFatal c = false := by
  cases hc : s.inEffect.isFatal c with
  | false =>
    rw [fail_of_not_fatal hc] at h
    cases h
    exact ⟨rfl, rfl⟩
  | true =>
    rw [fail_of_fatal hc] at h
    cases h

end Attempt

end Fallible
