import Fallible.Proofs.History.Basic
import Fallible.Proofs.Unwinding.Capturing

/-!
# Capturing is the same everywhere

The places at which the library captures a cause, one by one, and those at which caller code gives
it a whole attempt. Wherever a cause comes from, what becomes of it is what `Captured.capture` makes
of it in the session that the caller's functions left; an attempt that is given is passed on as it
is.

Observers are the exception among the combinators that run caller code: they have a consumer look at
what an attempt holds, and neither judge nor report a cause that it answers with.

## Main definitions

* `CapturingCall.Hands`: how a call comes by a cause that is to be captured
* `CapturingCall.Gives`: how a call comes by an attempt that caller code answered with
* `ObservingCall`: the calls that have a consumer look at an attempt

## Main results

* `CapturingCall.Hands.run_eq`: what becomes of a cause does not depend on where it comes from
* `CapturingCall.Gives.run_eq`: an attempt that is given is not captured again
* `ObservingCall.run_of_observed`: an observer does what its consumer does
* `capturing_alike`: all of it together
-/

namespace Fallible

variable {σ : Type}

/-! ## Places where causes are captured -/

namespace CapturingCall

/-- How a call comes by a cause that is to be captured: `q.Hands s c s'` where `q`, begun in `s`,
has the cause `c` in hand when the functions that it ran have left `s'`. -/
inductive Hands : {α : Type} → CapturingCall σ (Attempt α) → Session σ → Cause → Session σ → Prop
  where
  | fail (c : Cause) (s : Session σ) : Hands (.fail c : CapturingCall σ (Attempt α)) s c s
  | ofExcept (c : Cause) (s : Session σ) :
      Hands (.ofExcept (.error c) : CapturingCall σ (Attempt α)) s c s
  | ofResult {toCause : ε → Run σ Cause} {e : ε} (h : toCause e s = (.returned c, s')) :
      Hands (.ofResult toCause (.error e) : CapturingCall σ (Attempt α)) s c s'
  /-- A computation answered with a cause; an action is a computation without a value. -/
  | of {m : Run σ (Except Cause α)} (h : m s = (.returned (.error c), s')) : Hands (.of m) s c s'
  | lift {f : Checked σ ι α} {a : ι} (h : f a s = (.returned (.error c), s')) :
      Hands (.lift f a) s c s'
  | map {f : Checked σ ι α} {a : ι} (h : f a s = (.returned (.error c), s')) :
      Hands (.map (.success a) f) s c s'
  | flatMap {f : Checked σ ι (Attempt α)} {a : ι} (h : f a s = (.returned (.error c), s')) :
      Hands (.flatMap (.success a) f) s c s'
  /-- The predicate answered with a cause. -/
  | filterRaised {shown : Shown α} {p : Predicate σ α} {a : α}
      (h : p a s = (.returned (.error c), s')) : Hands (.filter shown (.success a) p) s c s'
  /-- The predicate does not hold, and the cause is a fresh one. -/
  | filterFalse {shown : Shown α} {p : Predicate σ α} {a : α}
      (h : p a s = (.returned (.ok false), s₁))
      (hc : Attempt.unsatisfied a s₁ = (.returned c, s')) :
      Hands (.filter shown (.success a) p) s c s'
  | filterOrRaised {p : Predicate σ α} {error : α → Run σ Cause} {a : α}
      (h : p a s = (.returned (.error c), s')) : Hands (.filterOr (.success a) p error) s c s'
  | filterOrFalse {p : Predicate σ α} {error : α → Run σ Cause} {a : α}
      (h : p a s = (.returned (.ok false), s₁)) (hc : error a s₁ = (.returned c, s')) :
      Hands (.filterOr (.success a) p error) s c s'
  /-- The mapper answered with a cause as its value. -/
  | mapped {d : Captured} {f : Checked σ Cause Cause}
      (h : f d.cause s = (.returned (.ok c), s')) :
      Hands (.mapFailure (.failure d) f : CapturingCall σ (Attempt α)) s c s'
  /-- The mapper answered with a cause in place of its value. -/
  | mapRaised {d : Captured} {f : Checked σ Cause Cause}
      (h : f d.cause s = (.returned (.error c), s')) :
      Hands (.mapFailure (.failure d) f : CapturingCall σ (Attempt α)) s c s'
  | recover {d : Captured} {kind : Kind} {f : Checked σ Cause α} (hk : d.cause.isA kind = true)
      (h : f d.cause s = (.returned (.error c), s')) : Hands (.recover (.failure d) kind f) s c s'
  | recoverWith {d : Captured} {kind : Kind} {f : Checked σ Cause (Attempt α)}
      (hk : d.cause.isA kind = true) (h : f d.cause s = (.returned (.error c), s')) :
      Hands (.recoverWith (.failure d) kind f) s c s'
  | orElse {d : Captured} {supplier : Run σ (Except Cause (Attempt α))}
      (h : supplier s = (.returned (.error c), s')) : Hands (.orElse (.failure d) supplier) s c s'
  | transformFailure {d : Captured} {f : Checked σ Cause (Attempt α)} {g : Checked σ ι (Attempt α)}
      (h : f d.cause s = (.returned (.error c), s')) : Hands (.transform (.failure d) f g) s c s'
  | transformSuccess {f : Checked σ Cause (Attempt α)} {g : Checked σ ι (Attempt α)} {a : ι}
      (h : g a s = (.returned (.error c), s')) : Hands (.transform (.success a) f g) s c s'
  /-- There is no cause to swap to, which is a cause itself. -/
  | failed {a : ι} (h : Cause.unsupported "Success.failed()" s = (.returned c, s')) :
      Hands (.failed (.success a)) s c s'
  | toAttempt {ifAbsent : Run σ Cause} (h : ifAbsent s = (.returned c, s')) :
      Hands (.toAttempt .absent ifAbsent : CapturingCall σ (Attempt α)) s c s'

/-- How a call comes by an attempt that caller code answered with: `q.Gives s t s'` where a function
that `q` ran in `s` answered with `t` and left `s'`. -/
inductive Gives :
    {α : Type} → CapturingCall σ (Attempt α) → Session σ → Attempt α → Session σ → Prop
  where
  | flatMap {f : Checked σ ι (Attempt α)} {a : ι} (h : f a s = (.returned (.ok t), s')) :
      Gives (.flatMap (.success a) f) s t s'
  | recoverWith {d : Captured} {kind : Kind} {f : Checked σ Cause (Attempt α)}
      (hk : d.cause.isA kind = true) (h : f d.cause s = (.returned (.ok t), s')) :
      Gives (.recoverWith (.failure d) kind f) s t s'
  | orElse {d : Captured} {supplier : Run σ (Except Cause (Attempt α))}
      (h : supplier s = (.returned (.ok t), s')) : Gives (.orElse (.failure d) supplier) s t s'
  | transformFailure {d : Captured} {f : Checked σ Cause (Attempt α)} {g : Checked σ ι (Attempt α)}
      (h : f d.cause s = (.returned (.ok t), s')) : Gives (.transform (.failure d) f g) s t s'
  | transformSuccess {f : Checked σ Cause (Attempt α)} {g : Checked σ ι (Attempt α)} {a : ι}
      (h : g a s = (.returned (.ok t), s')) : Gives (.transform (.success a) f g) s t s'

section Upshots

variable {α : Type} {q : CapturingCall σ (Attempt α)} {s s' : Session σ}

/-- A cause that the predicate of a filter answers with is handed over. -/
theorem screened_of_raised {p : Predicate σ α} {a : α} {c : Cause}
    (h : p a s = (.returned (.error c), s')) (error : α → Run σ Cause) :
    screened (.success a) p error s = (.returned (.handed c), s') :=
  Run.bind_of_returned _ h

/-- Where the predicate of a filter does not hold, the cause of that is handed over. -/
theorem screened_of_false {p : Predicate σ α} {error : α → Run σ Cause} {a : α} {c : Cause}
    {s₁ : Session σ} (h : p a s = (.returned (.ok false), s₁))
    (hc : error a s₁ = (.returned c, s')) :
    screened (.success a) p error s = (.returned (.handed c), s') :=
  (Run.bind_of_returned _ h).trans (Run.map_of_returned _ hc)

/-- However a call comes by a cause, it hands it over. -/
theorem Hands.upshot_eq {c : Cause} (h : q.Hands s c s') :
    q.upshot s = (.returned (.handed c), s') := by
  cases h with
  | fail | ofExcept => rfl
  | ofResult h | of h | lift h | map h | flatMap h | mapped h | mapRaised h | orElse h
  | transformFailure h | transformSuccess h | failed h | toAttempt h =>
    -- what the function answered with is all that the upshot depends on
    exact Run.map_of_returned _ h
  | filterRaised h | filterOrRaised h => exact screened_of_raised h _
  | filterFalse h hc | filterOrFalse h hc => exact screened_of_false h hc
  | recover hk h | recoverWith hk h =>
    rw [upshot, if_pos hk]
    exact Run.map_of_returned _ h

theorem Gives.upshot_eq {t : Attempt α} (h : q.Gives s t s') :
    q.upshot s = (.returned (.given t), s') := by
  cases h with
  | flatMap h | orElse h | transformFailure h | transformSuccess h => exact Run.map_of_returned _ h
  | recoverWith hk h =>
    rw [upshot, if_pos hk]
    exact Run.map_of_returned _ h

/-- **What becomes of a cause** does not depend on the place where it is captured. -/
theorem Hands.run_eq {c : Cause} (h : q.Hands s c s') :
    q.run s = (Attempt.failure <$> Captured.capture c) s' := by
  rw [q.run_eq_capture h.upshot_eq]
  -- at every place the captured cause becomes that of a failure
  cases h <;> rfl

/-- **An attempt that is given** is passed on as it is. -/
theorem Gives.run_eq {t : Attempt α} (h : q.Gives s t s') : q.run s = (.returned t, s') := by
  rw [CapturingCall.run_eq, Run.bind_of_returned _ h.upshot_eq]
  rfl

end Upshots

end CapturingCall

/-! ## Observers -/

/-- A call that has a consumer look at what an attempt holds. -/
inductive ObservingCall (σ : Type) : Type → Type 1 where
  | forEach (t : Attempt α) (consumer : Consumer σ α) : ObservingCall σ Unit
  | onSuccess (t : Attempt α) (consumer : Consumer σ α) : ObservingCall σ (Attempt α)
  | onFailure (t : Attempt α) (consumer : Consumer σ Cause) : ObservingCall σ (Attempt α)

namespace ObservingCall

variable {α : Type}

/-- Runs a call. -/
def run : ObservingCall σ α → Run σ (Except Cause α)
  | forEach t consumer => t.forEach consumer
  | onSuccess t consumer => t.onSuccess consumer
  | onFailure t consumer => t.onFailure consumer

/-- What the consumer does, if it is asked at all. -/
def observed : ObservingCall σ α → Option (Run σ (Except Cause Unit))
  | forEach (.success a) consumer | onSuccess (.success a) consumer => some (consumer a)
  | onFailure (.failure c) consumer => some (consumer c.cause)
  | _ => none

/-- What is passed on if no cause comes up. -/
def passed : ObservingCall σ α → α
  | forEach _ _ => ()
  | onSuccess t _ | onFailure t _ => t

/-- Without anything to look at, an observer does nothing. -/
theorem run_of_not_observed {q : ObservingCall σ α} (h : q.observed = none) :
    q.run = pure (.ok q.passed) := by
  cases q with
  | forEach t consumer | onSuccess t consumer | onFailure t consumer =>
    cases t <;> first | rfl | cases h

/-- **An observer does what its consumer does**, and then passes on what it was called on, or the
cause that the consumer answered with. -/
theorem run_of_observed {q : ObservingCall σ α} {m : Run σ (Except Cause Unit)}
    (h : q.observed = some m) : q.run = (Except.map fun () => q.passed) <$> m := by
  cases q with
  | forEach t consumer =>
    cases t with
    | success a =>
      cases h
      refine (id_map _).symm.trans (congrArg (· <$> consumer a) (funext fun r => ?_))
      cases r <;> rfl
    | failure d => cases h
  | onSuccess t consumer | onFailure t consumer =>
    cases t <;> cases h
    rfl

theorem run_of_raised {q : ObservingCall σ α} {m : Run σ (Except Cause Unit)} {s s' : Session σ}
    {c : Cause} (h : q.observed = some m) (hm : m s = (.returned (.error c), s')) :
    q.run s = (.returned (.error c), s') := by
  rw [run_of_observed h]
  exact Run.map_of_returned _ hm

/-- An observer that goes on passes on what it was called on. -/
theorem eq_passed (q : ObservingCall σ α) {s s' : Session σ} {a : α}
    (h : q.run s = (.returned (.ok a), s')) : a = q.passed := by
  cases hq : q.observed with
  | none =>
    rw [run_of_not_observed hq] at h
    cases h
    rfl
  | some m =>
    rw [run_of_observed hq] at h
    obtain ⟨r, -, hr⟩ := CapturingCall.exists_of_map_returned h
    cases r <;> cases hr
    rfl

/-- An observer asks for a judgement only where its consumer does. -/
theorem takes_of_observed {q : ObservingCall σ α} {m : Run σ (Except Cause Unit)} {s : Session σ}
    {steps : List Step} (h : q.observed = some m) (hm : m.Takes s steps) :
    q.run.Takes s steps := by
  rw [run_of_observed h]
  exact hm.map _

end ObservingCall

/-! ## All of it together -/

/-- **Capturing is the same everywhere**, under whatever classifier and for whatever cause.

* A cause that is handed over comes to what capturing it comes to in the session that the caller's
  functions left: a non-fatal one is reported as captured and becomes, as it is, the cause of a
  failure; a fatal one is reported as escaping and unwinds as it is.
* An attempt that a function answered with is passed on as it is, and nothing is reported or judged.
* An observer passes on the very cause that its consumer answered with, in the session that the
  consumer left, and takes no step of its own. Where the consumer is not asked, it does nothing. -/
theorem capturing_alike :
    (∀ (α : Type) (q : CapturingCall σ (Attempt α)) (s s' : Session σ) (c : Cause),
      q.Hands s c s' →
        q.run s = (Attempt.failure <$> Captured.capture c) s' ∧
        (s'.inEffect.isFatal c = false → q.run s = (.returned (.failure ⟨c⟩),
          { s' with classifier := some s'.inEffect, events := s'.events ++ [.captured c] })) ∧
        (s'.inEffect.isFatal c = true → q.run s = (.thrown c,
          { s' with classifier := some s'.inEffect, events := s'.events ++ [.escaping c] }))) ∧
    (∀ (α : Type) (q : CapturingCall σ (Attempt α)) (s s' : Session σ) (t : Attempt α),
      q.Gives s t s' → q.run s = (.returned t, s')) ∧
    ∀ (α : Type) (q : ObservingCall σ α),
      (q.observed = none → q.run = pure (.ok q.passed)) ∧
      ∀ m : Run σ (Except Cause Unit), q.observed = some m →
        (∀ (s s' : Session σ) (c : Cause), m s = (.returned (.error c), s') →
          q.run s = (.returned (.error c), s')) ∧
        ∀ (s : Session σ) (steps : List Step), m.Takes s steps → q.run.Takes s steps := by
  refine ⟨?_, ?_, ?_⟩
  · intro α q s s' c h
    have hq : q.run s = (Attempt.failure <$> Captured.capture c) s' := h.run_eq
    refine ⟨hq, fun hc => ?_, fun hc => ?_⟩
    · rw [hq]
      exact Run.map_of_returned _ (Captured.capture_of_not_fatal hc)
    · rw [hq, Run.map_apply, Captured.capture_of_fatal hc]
      rfl
  · exact fun α q s s' t h => h.run_eq
  · exact fun α q => ⟨q.run_of_not_observed, fun m hm =>
      ⟨fun s s' c => q.run_of_raised hm, fun s steps => q.takes_of_observed hm⟩⟩

/-- The same linkage fault: from a mapper it unwinds, and an observer hands it back. -/
theorem linkage_mapped_or_observed :
    let c : Cause := { condition := ⟨0, .linkage, none⟩ }
    let t : Attempt Unit := .success ()
    let f : Checked Unit Unit Unit := fun _ => return .error c
    let s : Session Unit := Session.start ()
    t.map f s = (.thrown c, { s with classifier := some .standard, events := [.escaping c] }) ∧
      t.onSuccess f s = (.returned (.error c), s) := by
  intro c t f s
  have hf : Classifier.standard.isFatal c = true :=
    Policy.isFatal_of_mem (show Kind.linkage ∈ Policy.standard.kinds by decide)
  obtain ⟨hands, -, observes⟩ := capturing_alike (σ := Unit)
  refine ⟨?_, ?_⟩
  · exact (hands _ (.map t f) s s c (.map rfl)).2.2 hf
  · exact ((observes _ (.onSuccess t f)).2 (f ()) rfl).1 s s c rfl

end Fallible
