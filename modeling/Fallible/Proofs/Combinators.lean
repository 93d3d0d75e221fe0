import Fallible.Proofs.Judgement

/-!
# Laws of the combinators

Going on from a success obeys the laws of a monad, with everything that the functions do on the way:
a function may answer with a cause, which is captured or unwinds, and it may unwind itself. A cause
may be captured early, by the inner of two combinators, or be handed on and captured late, by the
outer one; either way it is captured once, and nothing runs after it.

The other combinators are forms of going on. Every equation here is one of runs: in every session
both sides end in the same way, run the same functions in the same order, report the same and leave
the same classifier in effect.

## Main definitions

* `Attempt.chain`: checked functions one after the other, as one

## Main results

* `Attempt.bind_flatMap`: going on twice is going on once
* `Attempt.flatMap_laws`: the laws of a monad
* `Attempt.foldlM_flatMap`: any number of functions
* `Attempt.derived_forms`: the combinators as forms of going on
-/

namespace Fallible

variable {σ α β γ : Type}

namespace Attempt

/-! ## Settling -/

/-- An attempt that is answered with as it is. -/
theorem ok_map_bind_settle (m : Run σ (Attempt α)) : (.ok <$> m) >>= settle = m := by
  rw [bind_map_left]
  exact bind_pure m

/-- An answer is settled after the function that comes first has answered with a value. A cause that
it answers with goes through the second function untouched. -/
theorem andThen_bind_settle (f : Checked σ α β) (g : Checked σ β (Attempt γ)) (a : α) :
    f.andThen g a >>= settle =
      f a >>= fun
        | .ok b => g b >>= settle
        | .error c => fail c := by
  rw [Checked.andThen, bind_assoc]
  refine bind_congr fun r => ?_
  cases r <;> rfl

/-! ## Going on twice -/

theorem flatMap_success (a : α) (f : Checked σ α (Attempt β)) :
    (success a).flatMap f = f a >>= settle := rfl

theorem flatMap_failure (c : Captured) (f : Checked σ α (Attempt β)) :
    (failure c).flatMap f = pure (failure c) := rfl

/-- **Going on twice** is going on once, with the one function after the other. -/
theorem bind_flatMap (t : Attempt α) (f : Checked σ α (Attempt β)) (g : Checked σ β (Attempt γ)) :
    (t.flatMap f >>= fun u => u.flatMap g) =
      t.flatMap (f.andThen fun u => .ok <$> u.flatMap g) := by
  cases t with
  | failure c => rw [flatMap_failure, flatMap_failure, pure_bind, flatMap_failure]
  | success a =>
    rw [flatMap_success, flatMap_success, bind_assoc, andThen_bind_settle]
    refine bind_congr fun r => ?_
    cases r with
    | ok u => exact (ok_map_bind_settle (u.flatMap g)).symm
    | error c => exact fail_bind (f := fun u => u.flatMap g) (fun _ => rfl) c

theorem flatMap_pure (t : Attempt α) :
    (t.flatMap fun a => return .ok (success a) : Run σ (Attempt α)) = pure t := by
  cases t <;> rfl

/-- **The laws of a monad.** Going on from a success runs the function on its value and settles the
answer, going on with the success of the same value changes nothing, and going on twice is going on
once. -/
theorem flatMap_laws (a : α) (t : Attempt α) (f : Checked σ α (Attempt β))
    (g : Checked σ β (Attempt γ)) :
    ((success a).flatMap f = do
      match ← f a with
      | .ok u => return u
      | .error c => fail c) ∧
    (t.flatMap fun a => return .ok (success a) : Run σ (Attempt α)) = pure t ∧
    (do (← t.flatMap f).flatMap g) = t.flatMap (f.andThen fun u => .ok <$> u.flatMap g) := by
  refine ⟨?_, flatMap_pure t, bind_flatMap t f g⟩
  rw [flatMap_success]
  refine bind_congr fun r => ?_
  cases r <;> rfl

/-- Checked functions one after the other, as one. -/
def chain (fs : List (Checked σ α (Attempt α))) : Checked σ α (Attempt α) :=
  fs.foldr (fun f rest => f.andThen fun t => .ok <$> t.flatMap rest)
    fun a => return .ok (success a)

/-- **Going on with any number of functions** is going on once, with all of them. -/
theorem foldlM_flatMap (fs : List (Checked σ α (Attempt α))) (t : Attempt α) :
    fs.foldlM flatMap t = t.flatMap (chain fs) := by
  induction fs generalizing t with
  | nil => exact (flatMap_pure t).symm
  | cons f fs ih =>
    rw [List.foldlM_cons, funext ih, bind_flatMap]
    rfl

/-! ## Derived forms -/

theorem map_eq_flatMap (t : Attempt α) (f : Checked σ α β) :
    t.map f = t.flatMap (f.andThen fun b => return .ok (success b)) := by
  cases t with
  | failure c => rfl
  | success a =>
    rw [flatMap_success, andThen_bind_settle]
    refine bind_congr fun r => ?_
    cases r <;> rfl

theorem map_eq_flatMap_lift (t : Attempt α) (f : Checked σ α β) :
    t.map f = t.flatMap fun a => .ok <$> f.lift a := by
  cases t with
  | failure c => rfl
  | success a =>
    rw [flatMap_success, ok_map_bind_settle]
    rfl

/-- The cause of a filter is raised by the function, and captured where that is settled. -/
theorem filterOr_eq_flatMap (t : Attempt α) (p : Predicate σ α) (error : α → Run σ Cause) :
    t.filterOr p error = t.flatMap fun a => do
      match ← p a with
      | .ok true => return .ok (success a)
      | .ok false => return .error (← error a)
      | .error c => return .error c := by
  cases t with
  | failure c => rfl
  | success a =>
    rw [flatMap_success, bind_assoc]
    refine bind_congr fun r => ?_
    rcases r with c | _ | _
    · rfl
    · simp only [bind_assoc, pure_bind]
      rfl
    · rfl

theorem recover_eq_recoverWith (t : Attempt α) (kind : Kind) (f : Checked σ Cause α) :
    t.recover kind f = t.recoverWith kind (f.andThen fun a => return .ok (success a)) := by
  cases t with
  | success a => rfl
  | failure c =>
    rw [recover, recoverWith]
    split
    · rw [andThen_bind_settle]
      refine bind_congr fun r => ?_
      cases r <;> rfl
    · rfl

/-- Every cause is of the kind `any`. -/
theorem recoverWith_any (t : Attempt α) (f : Checked σ Cause (Attempt α)) :
    t.recoverWith .any f = t.transform f fun a => return .ok (success a) := by
  cases t with
  | success a => rfl
  | failure c => exact if_pos c.cause.kind.isA_any

theorem orElse_eq_transform (t : Attempt α) (supplier : Run σ (Except Cause (Attempt α))) :
    t.orElse supplier = t.transform (fun _ => supplier) fun a => return .ok (success a) := by
  cases t <;> rfl

theorem mapFailure_eq_recoverWith (t : Attempt α) (f : Checked σ Cause Cause) :
    t.mapFailure f = t.recoverWith .any fun c => do
      match ← f c with
      | .ok mapped | .error mapped => return .error mapped := by
  rw [recoverWith_any]
  cases t with
  | success a => rfl
  | failure c =>
    rw [transform, bind_assoc]
    refine bind_congr fun r => ?_
    cases r <;> rfl

end Attempt

theorem Maybe.toAttempt_eq_of (m : Maybe α) (ifAbsent : Run σ Cause) :
    m.toAttempt ifAbsent = Attempt.of (match m.toOption with
      | some a => return .ok a
      | none => .error <$> ifAbsent) := by
  cases m with
  | present a => rfl
  | absent => exact (bind_map_left Except.error ifAbsent Attempt.ofExcept).symm

/-- **The combinators are forms of going on.** Mapping and filtering go on from a success, one
recovery is a form of the other, recovering from every cause and falling back are forms of going on
from either branch, and replacing a cause recovers with it. A maybe becomes an attempt as an option
becomes a result. -/
theorem Attempt.derived_forms [Shown α] (t : Attempt α) (m : Maybe α) (kind : Kind)
    (f : Checked σ α β) (p : Predicate σ α) (recovery : Checked σ Cause α)
    (other : Checked σ Cause (Attempt α)) (supplier : Run σ (Except Cause (Attempt α)))
    (mapper : Checked σ Cause Cause) (ifAbsent : Run σ Cause) :
    t.map f = t.flatMap (f.andThen fun b => return .ok (success b)) ∧
    (t.map f = t.flatMap fun a => .ok <$> f.lift a) ∧
    (t.filter p = t.flatMap fun a => do
      match ← p a with
      | .ok true => return .ok (success a)
      | .ok false => return .error (← Cause.raise .predicateNotSatisfied
          (some ("Predicate does not hold for " ++ (Shown.term a).line)))
      | .error c => return .error c) ∧
    t.recover kind recovery =
      t.recoverWith kind (recovery.andThen fun a => return .ok (success a)) ∧
    (t.recoverWith .any other = t.transform other fun a => return .ok (success a)) ∧
    (t.orElse supplier = t.transform (fun _ => supplier) fun a => return .ok (success a)) ∧
    (t.mapFailure mapper = t.recoverWith .any fun c => do
      match ← mapper c with
      | .ok mapped | .error mapped => return .error mapped) ∧
    m.toAttempt ifAbsent = Attempt.of (match m.toOption with
      | some a => return .ok a
      | none => .error <$> ifAbsent) :=
  ⟨map_eq_flatMap t f, map_eq_flatMap_lift t f, filterOr_eq_flatMap t p unsatisfied,
    recover_eq_recoverWith t kind recovery, recoverWith_any t other,
    orElse_eq_transform t supplier, mapFailure_eq_recoverWith t mapper,
    m.toAttempt_eq_of ifAbsent⟩

end Fallible
