import Fallible.Attempt
import Fallible.Proofs.Judgement

/-!
# Places where combinators run functions

A combinator of an attempt or a maybe takes functions and runs one of them, or first one and then
another, or none. Each place for a function is a site: a combinator with everything but the function
that stands there. A site either runs its function once, on an argument and in a session that do not
depend on the function, or does not run it at all.

What unwinds out of that function, be it a cause or a panic, unwinds out of the combinator, which
neither looks at it nor does anything more. A cause that the function *answers* with is another
matter: that is what combinators capture.

## Main definitions

* `Payload`: what unwinds
* `Site`, `Site.apply`: a combinator with a place for a function, and the whole combinator
* `Site.entry`: the argument and the session that the function is run with

## Main results

* `Site.exists_apply_eq_bind`: a combinator runs its function and goes on with the answer
* `Site.apply_of_not_entered`: a function that is not run does not matter
* `Site.apply_of_unwinds`: an unwinding passes the combinator as it is
-/

namespace Fallible

/-! ## Unwinding -/

/-- What unwinds: a cause, or a panic that carries none. -/
inductive Payload where
  | cause (c : Cause)
  | panic (text : String)

section Unwinding

variable {σ α β : Type}

/-- The outcome of a run that something unwound out of. -/
def Payload.outcome : Payload → Outcome α
  | cause c => .thrown c
  | panic text => .panicked text

namespace Run

variable {m : Run σ α} {s s' : Session σ} {p : Payload}

theorem bind_of_unwinds (f : α → Run σ β) (h : m s = (p.outcome, s')) :
    (m >>= f) s = (p.outcome, s') := by
  rw [bind_apply, h]
  cases p <;> rfl

end Run

/-! ## Recovering -/

namespace Attempt

variable {c : Captured} {kind : Kind}

theorem recover_of_isA (h : c.cause.isA kind = true) (f : Checked σ Cause α) :
    (failure c).recover kind f = of (f c.cause) :=
  if_pos h

theorem recover_of_not_isA (h : c.cause.isA kind = false) (f : Checked σ Cause α) :
    (failure c).recover kind f = pure (failure c) :=
  if_neg (by simp [h])

theorem recoverWith_of_isA (h : c.cause.isA kind = true) (f : Checked σ Cause (Attempt α)) :
    (failure c).recoverWith kind f = f c.cause >>= settle :=
  if_pos h

theorem recoverWith_of_not_isA (h : c.cause.isA kind = false) (f : Checked σ Cause (Attempt α)) :
    (failure c).recoverWith kind f = pure (failure c) :=
  if_neg (by simp [h])

end Attempt

end Unwinding

/-! ## Sites -/

/-- A combinator with a place for a function that takes an `ι` and answers with a `β`; the whole
combinator answers with an `α`. -/
inductive Site (σ : Type) : Type → Type → Type → Type 1 where
  | of : Site σ Unit (Except Cause α) (Attempt α)
  | ofResult (r : Except ε α) : Site σ ε Cause (Attempt α)
  | lift (a : ι) : Site σ ι (Except Cause β) (Attempt β)
  | map (t : Attempt ι) : Site σ ι (Except Cause β) (Attempt β)
  | flatMap (t : Attempt ι) : Site σ ι (Except Cause (Attempt β)) (Attempt β)
  | filter (shown : Shown ι) (t : Attempt ι) : Site σ ι (Except Cause Bool) (Attempt ι)
  | filterOr (t : Attempt ι) (error : ι → Run σ Cause) : Site σ ι (Except Cause Bool) (Attempt ι)
  /-- The function that gives the cause of a value for which the predicate does not hold. -/
  | filterOrError (t : Attempt ι) (predicate : Predicate σ ι) : Site σ ι Cause (Attempt ι)
  | mapFailure (t : Attempt α) : Site σ Cause (Except Cause Cause) (Attempt α)
  | recover (t : Attempt α) (kind : Kind) : Site σ Cause (Except Cause α) (Attempt α)
  | recoverWith (t : Attempt α) (kind : Kind) : Site σ Cause (Except Cause (Attempt α)) (Attempt α)
  | orElse (t : Attempt α) : Site σ Unit (Except Cause (Attempt α)) (Attempt α)
  | transformFailure (t : Attempt γ) (ifSuccess : Checked σ γ (Attempt β)) :
      Site σ Cause (Except Cause (Attempt β)) (Attempt β)
  | transformSuccess (t : Attempt ι) (ifFailure : Checked σ Cause (Attempt β)) :
      Site σ ι (Except Cause (Attempt β)) (Attempt β)
  | getOrElseGet (t : Attempt α) : Site σ Unit α α
  | getOrElseThrow (t : Attempt α) : Site σ Cause ε (Except ε α)
  | toSum (t : Attempt α) : Site σ Cause β (β ⊕ α)
  | foldFailure (t : Attempt γ) (onSuccess : γ → Run σ β) : Site σ Cause β β
  | foldSuccess (t : Attempt ι) (onFailure : Cause → Run σ β) : Site σ ι β β
  | forEach (t : Attempt ι) : Site σ ι (Except Cause Unit) (Except Cause Unit)
  | onSuccess (t : Attempt ι) : Site σ ι (Except Cause Unit) (Except Cause (Attempt ι))
  | onFailure (t : Attempt α) : Site σ Cause (Except Cause Unit) (Except Cause (Attempt α))
  | when (condition : Bool) : Site σ Unit α (Maybe α)
  | whenNot (condition : Bool) : Site σ Unit α (Maybe α)
  | maybeGetOrElseGet (m : Maybe α) : Site σ Unit α α
  | maybeGetOrElseThrow (m : Maybe α) : Site σ Unit ε (Except ε α)
  | maybeToSum (m : Maybe α) : Site σ Unit β (β ⊕ α)
  | foldAbsent (m : Maybe γ) (ifPresent : γ → Run σ β) : Site σ Unit β β
  | foldPresent (m : Maybe ι) (ifAbsent : Run σ β) : Site σ ι β β
  | maybeFilter (m : Maybe ι) : Site σ ι Bool (Maybe ι)
  | maybeMap (m : Maybe ι) : Site σ ι β (Maybe β)
  | maybeFlatMap (m : Maybe ι) : Site σ ι (Maybe β) (Maybe β)
  | maybeOrElse (m : Maybe α) : Site σ Unit (Maybe α) (Maybe α)
  | transformAbsent (m : Maybe γ) (ifPresent : γ → Run σ (Maybe β)) :
      Site σ Unit (Maybe β) (Maybe β)
  | transformPresent (m : Maybe ι) (ifAbsent : Run σ (Maybe β)) : Site σ ι (Maybe β) (Maybe β)
  | onAbsent (m : Maybe α) : Site σ Unit Unit (Maybe α)
  | onPresent (m : Maybe ι) : Site σ ι Unit (Maybe ι)
  | toAttempt (m : Maybe α) : Site σ Unit Cause (Attempt α)

namespace Site

variable {σ ι β α : Type}

/-- The whole combinator, with a function in its place. -/
def apply : Site σ ι β α → (ι → Run σ β) → Run σ α
  | of, f => Attempt.of (f ())
  | ofResult r, f => Attempt.ofResult f r
  | lift a, f => Checked.lift f a
  | map t, f => t.map f
  | flatMap t, f => t.flatMap f
  | filter _ t, f => t.filter f
  | filterOr t error, f => t.filterOr f error
  | filterOrError t predicate, f => t.filterOr predicate f
  | mapFailure t, f => t.mapFailure f
  | recover t kind, f => t.recover kind f
  | recoverWith t kind, f => t.recoverWith kind f
  | orElse t, f => t.orElse (f ())
  | transformFailure t ifSuccess, f => t.transform f ifSuccess
  | transformSuccess t ifFailure, f => t.transform ifFailure f
  | getOrElseGet t, f => t.getOrElseGet (f ())
  | getOrElseThrow t, f => t.getOrElseThrow f
  | toSum t, f => t.toSum f
  | foldFailure t other, f => t.fold f other
  | foldSuccess t other, f => t.fold other f
  | forEach t, f => t.forEach f
  | onSuccess t, f => t.onSuccess f
  | onFailure t, f => t.onFailure f
  | when condition, f => Maybe.when condition (f ())
  | whenNot condition, f => Maybe.whenNot condition (f ())
  | maybeGetOrElseGet m, f => m.getOrElseGet (f ())
  | maybeGetOrElseThrow m, f => m.getOrElseThrow (f ())
  | maybeToSum m, f => m.toSum (f ())
  | foldAbsent m ifPresent, f => m.fold (f ()) ifPresent
  | foldPresent m ifAbsent, f => m.fold ifAbsent f
  | maybeFilter m, f => m.filter f
  | maybeMap m, f => m.map f
  | maybeFlatMap m, f => m.flatMap f
  | maybeOrElse m, f => m.orElse (f ())
  | transformAbsent m ifPresent, f => m.transform (f ()) ifPresent
  | transformPresent m ifAbsent, f => m.transform ifAbsent f
  | onAbsent m, f => m.onAbsent (f ())
  | onPresent m, f => m.onPresent f
  | toAttempt m, f => m.toAttempt (f ())

/-- The value of an attempt, as the argument of a function. -/
def onValue (t : Attempt ι) (s : Session σ) : Option (ι × Session σ) :=
  t.toOption.map (·, s)

/-- The cause of a failure, as the argument of a function. -/
def onCause (t : Attempt α) (s : Session σ) : Option (Cause × Session σ) :=
  match t with
  | .success _ => none
  | .failure c => some (c.cause, s)

/-- A function of no argument that is run if a condition holds. -/
def onDemand (condition : Bool) (s : Session σ) : Option (Unit × Session σ) :=
  if condition then some ((), s) else none

/-- The argument and the session that the function is run with, if it is run. -/
def entry : Site σ ι β α → Session σ → Option (ι × Session σ)
  | of, s => some ((), s)
  | ofResult (.ok _), _ => none
  | ofResult (.error e), s => some (e, s)
  | lift a, s => some (a, s)
  | map t, s | flatMap t, s | filter _ t, s | filterOr t _, s
  | transformSuccess t _, s | foldSuccess t _, s | forEach t, s
  | onSuccess t, s => onValue t s
  | filterOrError (.failure _) _, _ => none
  | filterOrError (.success a) predicate, s =>
    match predicate a s with
    | (.returned (.ok false), s) => some (a, s)
    | _ => none
  | recover t kind, s | recoverWith t kind, s =>
    (onCause t s).filter fun (c, _) => c.isA kind
  | mapFailure t, s | transformFailure t _, s | getOrElseThrow t, s
  | toSum t, s | foldFailure t _, s | onFailure t, s => onCause t s
  | orElse t, s | getOrElseGet t, s => onDemand t.isFailure s
  | when condition, s => onDemand condition s
  | whenNot condition, s => onDemand (!condition) s
  | maybeGetOrElseGet m, s | maybeGetOrElseThrow m, s | maybeToSum m, s
  | foldAbsent m _, s | maybeOrElse m, s | transformAbsent m _, s
  | onAbsent m, s | toAttempt m, s => onDemand m.isAbsent s
  | foldPresent m _, s | maybeFilter m, s | maybeMap m, s
  | maybeFlatMap m, s | transformPresent m _, s | onPresent m, s =>
    m.toOption.map (·, s)

/-! ## Being entered -/

section Entry

variable {s s₁ : Session σ}

theorem onValue_eq_some {t : Attempt ι} {i : ι} (h : onValue t s = some (i, s₁)) :
    t = .success i ∧ s₁ = s := by
  cases t with
  | success a =>
    cases h
    exact ⟨rfl, rfl⟩
  | failure d => cases h

theorem onCause_eq_some {t : Attempt α} {c : Cause} (h : onCause t s = some (c, s₁)) :
    t = .failure ⟨c⟩ ∧ s₁ = s := by
  cases t with
  | success a => cases h
  | failure d =>
    cases h
    exact ⟨rfl, rfl⟩

theorem onCauseOf_eq_some {t : Attempt α} {kind : Kind} {c : Cause}
    (h : (onCause t s).filter (fun found => found.1.isA kind) = some (c, s₁)) :
    t = .failure ⟨c⟩ ∧ c.isA kind = true ∧ s₁ = s := by
  obtain ⟨hc, hk⟩ := Option.filter_eq_some_iff.mp h
  obtain ⟨ht, hs⟩ := onCause_eq_some hc
  exact ⟨ht, hk, hs⟩

theorem onDemand_eq_some {condition : Bool} {u : Unit} (h : onDemand condition s = some (u, s₁)) :
    condition = true ∧ s₁ = s := by
  cases condition with
  | true =>
    cases h
    exact ⟨rfl, rfl⟩
  | false => cases h

theorem toOption_eq_some {m : Maybe ι} {i : ι} (h : m.toOption.map (·, s) = some (i, s₁)) :
    m = .present i ∧ s₁ = s := by
  cases m with
  | present a =>
    cases h
    exact ⟨rfl, rfl⟩
  | absent => cases h

end Entry

/-- **A combinator runs its function and goes on with the answer**, where it runs it at all. -/
theorem exists_apply_eq_bind (site : Site σ ι β α) {i : ι} {s s₁ : Session σ}
    (he : site.entry s = some (i, s₁)) :
    ∃ next : β → Run σ α, ∀ f, site.apply f s = (f i >>= next) s₁ := by
  -- some combinators answer with what the function does
  have asIs : ∃ next : β → Run σ β, ∀ f : ι → Run σ β, f i s = (f i >>= next) s :=
    ⟨pure, fun f => by rw [bind_pure]⟩
  cases site with
  | of =>
    cases he
    exact ⟨_, fun _ => rfl⟩
  | ofResult r =>
    cases r <;> cases he
    exact ⟨_, fun _ => rfl⟩
  | lift a =>
    cases he
    exact ⟨_, fun _ => rfl⟩
  | map t | flatMap t | filter shown t | filterOr t error | transformSuccess t other
  | onSuccess t =>
    -- only a success gives its value to a function
    obtain ⟨rfl, rfl⟩ := onValue_eq_some he
    exact ⟨_, fun _ => rfl⟩
  | filterOrError t predicate =>
    cases t with
    | failure d => cases he
    | success a =>
      -- the predicate ran before, and did not hold
      simp only [entry] at he
      split at he
      · rename_i s' hp
        cases he
        refine ⟨Attempt.fail, fun f => ?_⟩
        show (predicate i >>= _) s = _
        rw [Run.bind_of_returned _ hp]
      · cases he
  | mapFailure t | transformFailure t other | getOrElseThrow t | toSum t | onFailure t =>
    -- only a failure gives its cause to a function
    obtain ⟨rfl, rfl⟩ := onCause_eq_some he
    exact ⟨_, fun _ => rfl⟩
  | recover t kind =>
    -- the kind is right, since the function is run
    obtain ⟨rfl, hk, rfl⟩ := onCauseOf_eq_some he
    exact ⟨Attempt.ofExcept, fun f => by rw [apply, Attempt.recover_of_isA hk, Attempt.of]⟩
  | recoverWith t kind =>
    obtain ⟨rfl, hk, rfl⟩ := onCauseOf_eq_some he
    exact ⟨Attempt.settle, fun f => by rw [apply, Attempt.recoverWith_of_isA hk]⟩
  | orElse t | getOrElseGet t =>
    -- a supplier is asked where there is no value
    obtain ⟨ht, rfl⟩ := onDemand_eq_some he
    cases t with
    | success a => cases ht
    | failure d => first | exact asIs | exact ⟨_, fun _ => rfl⟩
  | foldSuccess t other | forEach t =>
    obtain ⟨rfl, rfl⟩ := onValue_eq_some he
    exact asIs
  | foldFailure t other =>
    obtain ⟨rfl, rfl⟩ := onCause_eq_some he
    exact asIs
  | when condition =>
    obtain ⟨rfl, rfl⟩ := onDemand_eq_some he
    exact ⟨_, fun _ => rfl⟩
  | whenNot condition =>
    obtain ⟨hc, rfl⟩ := onDemand_eq_some he
    cases condition with
    | true => cases hc
    | false => exact ⟨_, fun _ => rfl⟩
  | maybeGetOrElseGet m | foldAbsent m other | maybeOrElse m | transformAbsent m other =>
    obtain ⟨hm, rfl⟩ := onDemand_eq_some he
    cases m with
    | present a => cases hm
    | absent => exact asIs
  | maybeGetOrElseThrow m | maybeToSum m | onAbsent m | toAttempt m =>
    obtain ⟨hm, rfl⟩ := onDemand_eq_some he
    cases m with
    | present a => cases hm
    | absent => exact ⟨_, fun _ => rfl⟩
  | maybeFilter m | maybeMap m | onPresent m =>
    obtain ⟨rfl, rfl⟩ := toOption_eq_some he
    exact ⟨_, fun _ => rfl⟩
  | foldPresent m other | maybeFlatMap m | transformPresent m other =>
    obtain ⟨rfl, rfl⟩ := toOption_eq_some he
    exact asIs

/-- A function that is not run does not matter. -/
theorem apply_of_not_entered (site : Site σ ι β α) {s : Session σ} (he : site.entry s = none)
    (f g : ι → Run σ β) : site.apply f s = site.apply g s := by
  cases site with
  | of | lift a => cases he
  | ofResult r =>
    cases r with
    | ok a => rfl
    | error e => cases he
  | map t | flatMap t | filter shown t | filterOr t error | transformSuccess t other
  | onSuccess t | foldSuccess t other | forEach t =>
    -- a failure passes by functions of the value, and so on in the cases below
    cases t with
    | success a => cases he
    | failure d => rfl
  | filterOrError t predicate =>
    cases t with
    | failure d => rfl
    | success a =>
      -- however the predicate ends, but by not holding, the other function is not asked
      show (predicate a >>= _) s = (predicate a >>= _) s
      rw [Run.bind_apply, Run.bind_apply]
      rcases hp : predicate a s with ⟨(_ | _ | _) | _ | _, s'⟩
      · rfl
      · simp [entry, hp] at he
      · rfl
      · rfl
      · rfl
  | mapFailure t | transformFailure t other | getOrElseThrow t | toSum t | onFailure t
  | foldFailure t other =>
    cases t with
    | success a => rfl
    | failure d => cases he
  | recover t kind =>
    cases t with
    | success a => rfl
    | failure d =>
      have hk : d.cause.isA kind = false := by
        simpa [entry, onCause, Option.filter] using he
      rw [apply, apply, Attempt.recover_of_not_isA hk, Attempt.recover_of_not_isA hk]
  | recoverWith t kind =>
    cases t with
    | success a => rfl
    | failure d =>
      have hk : d.cause.isA kind = false := by
        simpa [entry, onCause, Option.filter] using he
      rw [apply, apply, Attempt.recoverWith_of_not_isA hk, Attempt.recoverWith_of_not_isA hk]
  | orElse t | getOrElseGet t =>
    cases t with
    | success a => rfl
    | failure d => cases he
  | when condition | whenNot condition =>
    cases condition <;> first | rfl | cases he
  | maybeGetOrElseGet m | foldAbsent m other | maybeOrElse m | transformAbsent m other
  | maybeGetOrElseThrow m | maybeToSum m | onAbsent m | toAttempt m =>
    cases m with
    | present a => rfl
    | absent => cases he
  | maybeFilter m | maybeMap m | onPresent m | foldPresent m other | maybeFlatMap m
  | transformPresent m other =>
    cases m with
    | present a => cases he
    | absent => rfl

/-- **An unwinding passes the combinator as it is**: what unwinds out of the function unwinds out of
the combinator, in the session that the function left. -/
theorem apply_of_unwinds (site : Site σ ι β α) (f : ι → Run σ β) {p : Payload} {i : ι}
    {s s₁ s₂ : Session σ} (he : site.entry s = some (i, s₁)) (hf : f i s₁ = (p.outcome, s₂)) :
    site.apply f s = (p.outcome, s₂) := by
  obtain ⟨next, hn⟩ := site.exists_apply_eq_bind he
  rw [hn]
  -- what the combinator goes on with is not reached
  exact Run.bind_of_unwinds next hf

end Site

end Fallible
