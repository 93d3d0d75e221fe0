import Fallible.Proofs.Config.Installed
import Fallible.Proofs.History.Traced
import Fallible.Proofs.Program.Captured

/-!
# Raising a captured cause again

A captured cause may be taken out of its failure and answered with again, at any later time. It is
then judged once more, and what saves it is that the classifier it was judged by is still in effect:
the cause is found non-fatal again, and the failure that comes of it is the one that was there.

Capturing loses nothing either. Whether a cause is captured or unwinds, it is the same cause that a
caller finds who catches what unwinds.

## Main definitions

* `Attempt.ObtainedIn`: an attempt that a run of a program leaves to its caller

## Main results

* `Attempt.reraised_of_forall_admits`: raising again where the classifier admits what was captured
* `Attempt.ObtainedIn.admits`: what was captured is admitted by every later session
* `Program.reraising_identity`: raising again changes nothing, whatever happened in between
-/

namespace Fallible

variable {σ α : Type}

/-! ## Raising again -/

namespace Session

variable {s : Session σ} {c : Captured}

theorem Admits.not_fatal (h : s.Admits c) : s.inEffect.isFatal c.cause = false := by
  obtain ⟨k, hs, hk⟩ := h
  rw [inEffect_of_eq_some hs, hk]

end Session

namespace Attempt

variable {s : Session σ} {t : Attempt α}

/-- A captured cause that is captured again. -/
theorem fail_of_admits {c : Captured} (h : s.Admits c) :
    (fail c.cause s).1 = .returned (failure c : Attempt α) := by
  rw [fail_of_not_fatal h.not_fatal]

/-- **Raising again** comes to the attempt itself where the classifier in effect admits what it
captured: taking it apart and putting it together, and answering with the cause in place of another
cause, of a value or of an attempt. -/
theorem reraised_of_forall_admits (ht : ∀ c, t = failure c → s.Admits c) (kind : Kind) :
    (ofExcept t.toExcept s).1 = .returned t ∧
    (t.mapFailure (fun c => return .ok c) s).1 = .returned t ∧
    (t.recover kind (fun c => return .error c) s).1 = .returned t ∧
    (t.recoverWith kind (fun c => return .error c) s).1 = .returned t ∧
    (t.transform (fun c => return .error c) (fun a => return .ok (success a)) s).1 =
      .returned t := by
  cases t with
  | success a => exact ⟨rfl, rfl, rfl, rfl, rfl⟩
  | failure c =>
    have hc : (fail c.cause s).1 = .returned (failure c : Attempt α) := fail_of_admits (ht c rfl)
    refine ⟨hc, hc, ?_, ?_, hc⟩
    · cases hk : c.cause.isA kind with
      | true =>
        rw [recover_of_isA hk]
        exact hc
      | false =>
        -- the cause is not asked for
        rw [recover_of_not_isA hk]
        rfl
    · cases hk : c.cause.isA kind with
      | true =>
        rw [recoverWith_of_isA hk]
        exact hc
      | false =>
        rw [recoverWith_of_not_isA hk]
        rfl

/-- **Capturing loses nothing**: who catches what unwinds out of it and takes the attempt apart has
the answer that was captured, a fatal cause included. -/
theorem catching_ofExcept (r : Except Cause α) (s : Session σ) :
    ((do
      match ← Run.catching (ofExcept r) with
      | .ok t => return t.toExcept
      | .error c => return .error c : Run σ (Except Cause α)) s).1 = .returned r := by
  rw [Run.bind_apply, Run.catching]
  cases r with
  | ok a => rfl
  | error c =>
    rw [ofExcept]
    cases hc : s.inEffect.isFatal c with
    | true =>
      rw [fail_of_fatal hc]
      rfl
    | false =>
      rw [fail_of_not_fatal hc]
      rfl

/-! ## Attempts of a program -/

/-- An attempt is obtained in a run that came to `first` where its cause, if it has one, stands in
an answer that the caller holds in the end, or in the value that the run answered with. -/
def ObtainedIn (t : Attempt α) (first : Outcome (Except Cause Value) × Session Live) : Prop :=
  ∀ c, t = failure c → (∃ a ∈ first.2.caller, .failure c ∈ a.value.leaves) ∨
    ∃ v, first.1 = .returned (.ok v) ∧ .failure c ∈ v.leaves

/-- By induction on the program its run is safe. The classifier that admits what was captured stays
in effect, and so every session that is reached later admits it as well. -/
theorem ObtainedIn.admits {p : Program} {t : Attempt α} {later : Session Live} {c : Captured}
    (ht : t.ObtainedIn (p.run (Session.start [])))
    (hlater : (p.run (Session.start [])).2.Reaches later) (hc : t = failure c) :
    later.Admits c := by
  have hp : Safe (fun _ => True) p.run (Session.start []) :=
    p.secure_run (p.draws_of_forall fun _ => trivial) _ Session.sound_start
  have hfirst : (p.run (Session.start [])).2.Admits c := by
    obtain ⟨a, ha, hl⟩ | ⟨v, hv, hl⟩ := ht c hc
    · exact hp.admits_of_mem ha hl
    · exact hp.admits_of_returned hv hl
  exact hfirst.mono fun k hk => hlater.classifier_eq hk

end Attempt

/-- Every program leads to a session that is reached. -/
theorem Program.reaches_run (q : Program) (s : Session Live) : s.Reaches (q.run s).2 :=
  ⟨_, q.run, q.history s, q.traced_run s, rfl⟩

/-- **Raising a captured cause again is the identity, at any later time.** Let a fresh process run a
program, however it ends, and let an attempt be obtained in that run. In every session that is
reached from there, by whatever is run in between, it comes to itself, with the very same cause,
when it is taken apart and put together again, when its cause is mapped to itself, when a recovery
from any kind answers with the cause, and when it is transformed branch by branch to what it was.
None of these unwinds. Programs lead to sessions that are reached, installations among them, and so
does any part of one.

Nor does capturing lose anything, in whatever session and under whatever classifier: a value or a
cause that is captured is there again when what unwinds is caught and the attempt is taken apart. -/
theorem Program.reraising_identity (p : Program) :
    let first := p.run (Session.start [])
    (∀ later : Session Live, first.2.Reaches later →
      ∀ (α : Type) (t : Attempt α), t.ObtainedIn first → ∀ kind : Kind,
        (Attempt.ofExcept t.toExcept later).1 = .returned t ∧
        (t.mapFailure (fun c => return .ok c) later).1 = .returned t ∧
        (t.recover kind (fun c => return .error c) later).1 = .returned t ∧
        (t.recoverWith kind (fun c => return .error c) later).1 = .returned t ∧
        (t.transform (fun c => return .error c) (fun a => return .ok (.success a)) later).1 =
          .returned t) ∧
    (∀ q : Program, first.2.Reaches (q.run first.2).2) ∧
    ∀ (σ α : Type) (r : Except Cause α) (s : Session σ),
      ((do
        match ← Run.catching (Attempt.ofExcept r) with
        | .ok t => return t.toExcept
        | .error c => return .error c : Run σ (Except Cause α)) s).1 = .returned r := by
  intro first
  refine ⟨fun later hlater α t ht kind => ?_, fun q => q.reaches_run first.2, fun σ α r s => ?_⟩
  · exact Attempt.reraised_of_forall_admits (fun c hc => ht.admits hlater hc) kind
  · exact Attempt.catching_ofExcept r s

/-- A failure under a classifier by message, and then an attempt to install a policy by which
everything is fatal: the cause may still be raised again. -/
theorem Program.reraising_after_installation :
    let c : Cause := { condition := ⟨0, .io, none⟩ }
    let stop : Program := .refuse c
    let failing : Program := .call (.fail c) stop stop stop
    let p : Program := .call (.install (.byMessage "disk")) stop stop failing
    let q : Program := .call (.install (Policy.ofList [.any]).classifier) stop stop stop
    let first := p.run (Session.start [])
    let later := (q.run first.2).2
    let t : Attempt Value := .failure ⟨c⟩
    first.2.Reaches later ∧ t.ObtainedIn first ∧
      (Attempt.ofExcept t.toExcept later).1 = .returned t ∧
      (t.recover .exception (fun c => return .error c) later).1 = .returned t := by
  intro c stop failing p q first later t
  obtain ⟨reraised, reaches, -⟩ := Program.reraising_identity p
  have ht : t.ObtainedIn first := by
    intro d hd
    obtain rfl : (⟨c⟩ : Captured) = d := Attempt.failure.inj hd
    exact .inl ⟨.ok (.failure ⟨c⟩), List.mem_cons_self, by simp [Answer.value, Value.leaves]⟩
  obtain ⟨hof, -, hrecover, -⟩ := reraised later (reaches q) Value t ht .exception
  exact ⟨reaches q, ht, hof, hrecover⟩

end Fallible
