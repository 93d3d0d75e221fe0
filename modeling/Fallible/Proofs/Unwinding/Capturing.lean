import Fallible.Proofs.Unwinding.Site

/-!
# Where causes are captured

The operations of the library that capture causes, each with all its arguments. Such a call runs
functions of the caller or raises a condition of its own, and comes to an upshot: an answer, or a
cause that it hands to `Captured.capture`. Whatever the call, a cause that is handed over is
captured or unwinds, and the call does nothing after that.

## Main definitions

* `CapturingCall`, `CapturingCall.run`: the calls, and running them
* `Upshot`, `CapturingCall.upshot`: what a call comes to before it captures anything
* `CapturingCall.handed`: running a call up to the cause that it hands over

## Main results

* `CapturingCall.run_eq`: a call comes to its upshot and settles it
* `CapturingCall.run_eq_capture`: what a call does with a cause that it hands over
* `CapturingCall.run_of_handed_fatal`: a fatal cause that is handed over unwinds as it is
-/

namespace Fallible

/-- A call that may capture a cause. -/
inductive CapturingCall (σ : Type) : Type → Type 1 where
  | capture (c : Cause) : CapturingCall σ Captured
  | fail (c : Cause) : CapturingCall σ (Attempt α)
  | ofExcept (r : Except Cause α) : CapturingCall σ (Attempt α)
  | ofResult (toCause : ε → Run σ Cause) (r : Except ε α) : CapturingCall σ (Attempt α)
  | of (m : Run σ (Except Cause α)) : CapturingCall σ (Attempt α)
  | lift (f : Checked σ ι β) (a : ι) : CapturingCall σ (Attempt β)
  | map (t : Attempt ι) (f : Checked σ ι β) : CapturingCall σ (Attempt β)
  | flatMap (t : Attempt ι) (f : Checked σ ι (Attempt β)) : CapturingCall σ (Attempt β)
  | filter (shown : Shown α) (t : Attempt α) (p : Predicate σ α) : CapturingCall σ (Attempt α)
  | filterOr (t : Attempt α) (p : Predicate σ α) (error : α → Run σ Cause) :
      CapturingCall σ (Attempt α)
  | mapFailure (t : Attempt α) (f : Checked σ Cause Cause) : CapturingCall σ (Attempt α)
  | recover (t : Attempt α) (kind : Kind) (f : Checked σ Cause α) : CapturingCall σ (Attempt α)
  | recoverWith (t : Attempt α) (kind : Kind) (f : Checked σ Cause (Attempt α)) :
      CapturingCall σ (Attempt α)
  | orElse (t : Attempt α) (supplier : Run σ (Except Cause (Attempt α))) :
      CapturingCall σ (Attempt α)
  | transform (t : Attempt α) (f : Checked σ Cause (Attempt β)) (g : Checked σ α (Attempt β)) :
      CapturingCall σ (Attempt β)
  | failed (t : Attempt α) : CapturingCall σ (Attempt Cause)
  | toAttempt (m : Maybe α) (ifAbsent : Run σ Cause) : CapturingCall σ (Attempt α)

/-- What a call comes to, up to where it would capture a cause. -/
inductive Upshot (α : Type) where
  /-- An answer of its own making, with the cause of the receiver in it or with none. -/
  | kept (a : α)
  /-- What a function answered with, as it is. -/
  | given (a : α)
  /-- A cause that it hands over to be captured. -/
  | handed (c : Cause)

namespace Upshot

variable {σ α β : Type}

/-- A value that caller code answered with is embedded, and a cause is handed over. -/
def ofAnswer (embed : α → β) : Except Cause α → Upshot β
  | .ok a => kept (embed a)
  | .error c => handed c

/-- What caller code answered with is given as it is, unless it is a cause. -/
def ofGiven : Except Cause α → Upshot α
  | .ok a => given a
  | .error c => handed c

/-- The cause that is handed over, if one is. -/
def cause? : Upshot α → Option Cause
  | kept _ | given _ => none
  | handed c => some c

/-- Captures a cause that was handed over. -/
def settle (ofCaptured : Captured → α) : Upshot α → Run σ α
  | kept a | given a => return a
  | handed c => ofCaptured <$> Captured.capture c

end Upshot

namespace CapturingCall

variable {σ α β : Type}

/-- Runs a call. -/
def run : CapturingCall σ α → Run σ α
  | capture c => Captured.capture c
  | fail c => Attempt.fail c
  | ofExcept r => Attempt.ofExcept r
  | ofResult toCause r => Attempt.ofResult toCause r
  | of m => Attempt.of m
  | lift f a => Checked.lift f a
  | map t f => t.map f
  | flatMap t f => t.flatMap f
  | filter _ t p => t.filter p
  | filterOr t p error => t.filterOr p error
  | mapFailure t f => t.mapFailure f
  | recover t kind f => t.recover kind f
  | recoverWith t kind f => t.recoverWith kind f
  | orElse t supplier => t.orElse supplier
  | transform t f g => t.transform f g
  | failed t => t.failed
  | toAttempt m ifAbsent => m.toAttempt ifAbsent

/-- The cause on the side of error. -/
def error? : Except Cause α → Option Cause
  | .ok _ => none
  | .error c => some c

/-- The cause on either side. -/
def either : Except Cause Cause → Cause
  | .ok c => c
  | .error c => c

/-- The cause that a filter hands over for a value. -/
def refused (p : Predicate σ α) (error : α → Run σ Cause) (a : α) : Run σ (Option Cause) := do
  match ← p a with
  | .ok true => return none
  | .ok false => some <$> error a
  | .error c => return some c

/-- Runs a call up to the cause that it hands over, if it comes by one. -/
def handed : CapturingCall σ α → Run σ (Option Cause)
  | capture c | fail c => return some c
  | ofExcept r => return error? r
  | ofResult _ (.ok _) => return none
  | ofResult toCause (.error e) => some <$> toCause e
  | of m => error? <$> m
  | lift f a => error? <$> f a
  | map (.success a) f => error? <$> f a
  | flatMap (.success a) f => error? <$> f a
  | filter _ (.success a) p => refused p Attempt.unsatisfied a
  | filterOr (.success a) p error => refused p error a
  | mapFailure (.failure c) f => (some ∘ either) <$> f c.cause
  | recover (.failure c) kind f => if c.cause.isA kind then error? <$> f c.cause else return none
  | recoverWith (.failure c) kind f =>
    if c.cause.isA kind then error? <$> f c.cause else return none
  | orElse (.failure _) supplier => error? <$> supplier
  | transform (.failure c) f _ => error? <$> f c.cause
  | transform (.success a) _ g => error? <$> g a
  | failed (.success _) => some <$> Cause.unsupported "Success.failed()"
  | toAttempt .absent ifAbsent => some <$> ifAbsent
  | _ => return none

/-! ## Upshots -/

/-- What a filter comes to. -/
def screened (t : Attempt α) (p : Predicate σ α) (error : α → Run σ Cause) :
    Run σ (Upshot (Attempt α)) :=
  match t with
  | .failure c => return .kept (.failure c)
  | .success a => do
    match ← p a with
    | .ok true => return .kept (.success a)
    | .ok false => .handed <$> error a
    | .error c => return .handed c

/-- Runs a call up to where it would capture a cause. -/
def upshot : CapturingCall σ α → Run σ (Upshot α)
  | capture c | fail c => return .handed c
  | ofExcept r => return .ofAnswer .success r
  | ofResult _ (.ok a) => return .kept (.success a)
  | ofResult toCause (.error e) => .handed <$> toCause e
  | of m => .ofAnswer .success <$> m
  | lift f a => .ofAnswer .success <$> f a
  | map (.success a) f => .ofAnswer .success <$> f a
  | map (.failure c) _ => return .kept (.failure c)
  | flatMap (.success a) f => .ofGiven <$> f a
  | flatMap (.failure c) _ => return .kept (.failure c)
  | filter _ t p => screened t p Attempt.unsatisfied
  | filterOr t p error => screened t p error
  | mapFailure (.success a) _ => return .kept (.success a)
  | mapFailure (.failure c) f => (.handed ∘ either) <$> f c.cause
  | recover (.success a) _ _ => return .kept (.success a)
  | recover (.failure c) kind f =>
    if c.cause.isA kind then .ofAnswer .success <$> f c.cause else return .kept (.failure c)
  | recoverWith (.success a) _ _ => return .kept (.success a)
  | recoverWith (.failure c) kind f =>
    if c.cause.isA kind then .ofGiven <$> f c.cause else return .kept (.failure c)
  | orElse (.success a) _ => return .kept (.success a)
  | orElse (.failure _) supplier => .ofGiven <$> supplier
  | transform (.failure c) f _ => .ofGiven <$> f c.cause
  | transform (.success a) _ g => .ofGiven <$> g a
  | failed (.success _) => .handed <$> Cause.unsupported "Success.failed()"
  | failed (.failure c) => return .kept (.success c.cause)
  | toAttempt (.present a) _ => return .kept (.success a)
  | toAttempt .absent ifAbsent => .handed <$> ifAbsent

/-- What a captured cause is for the caller: itself, or a failure. -/
def ofCaptured : CapturingCall σ α → Captured → α
  | capture _ => id
  | fail _ | ofExcept _ | ofResult _ _ | of _ | lift _ _ | map _ _ | flatMap _ _ | filter _ _ _
  | filterOr _ _ _ | mapFailure _ _ | recover _ _ _ | recoverWith _ _ _ | orElse _ _
  | transform _ _ _ | failed _ | toAttempt _ _ => .failure

section Upshots

/-- Where the answer of caller code is captured. -/
theorem bind_ofExcept (m : Run σ (Except Cause α)) :
    m >>= Attempt.ofExcept = (Upshot.ofAnswer .success <$> m) >>= Upshot.settle .failure := by
  rw [bind_map_left]
  refine bind_congr fun r => ?_
  cases r <;> rfl

/-- Where the answer of caller code is settled. -/
theorem bind_settle (m : Run σ (Except Cause (Attempt α))) :
    m >>= Attempt.settle = (Upshot.ofGiven <$> m) >>= Upshot.settle .failure := by
  rw [bind_map_left]
  refine bind_congr fun r => ?_
  cases r <;> rfl

theorem bind_fail (m : Run σ Cause) :
    (m >>= Attempt.fail : Run σ (Attempt α)) =
      (Upshot.handed <$> m) >>= Upshot.settle .failure := by
  rw [bind_map_left]
  rfl

theorem filterOr_eq (t : Attempt α) (p : Predicate σ α) (error : α → Run σ Cause) :
    t.filterOr p error = screened t p error >>= Upshot.settle .failure := by
  cases t with
  | failure c => rfl
  | success a =>
    rw [screened, bind_assoc]
    refine bind_congr fun r => ?_
    rcases r with c | _ | _
    · rfl
    · exact bind_fail (error a)
    · rfl

/-- **What a call does**: it comes to its upshot, and a cause that it hands over is captured. -/
theorem run_eq (q : CapturingCall σ α) : q.run = q.upshot >>= Upshot.settle q.ofCaptured := by
  cases q with
  | capture c => exact (id_map _).symm
  | fail c => rfl
  | ofExcept r => cases r <;> rfl
  | ofResult toCause r =>
    cases r with
    | ok a => rfl
    | error e => exact bind_fail (toCause e)
  | of m | lift f a => exact bind_ofExcept _
  | map t f =>
    cases t with
    | success a => exact bind_ofExcept (f a)
    | failure d => rfl
  | flatMap t f =>
    cases t with
    | success a => exact bind_settle (f a)
    | failure d => rfl
  | filter shown t p | filterOr t p error => exact filterOr_eq t p _
  | mapFailure t f =>
    cases t with
    | success a => rfl
    | failure d =>
      rw [upshot, bind_map_left]
      -- either answer of the mapper is the cause that is handed over
      refine bind_congr fun r => ?_
      cases r <;> rfl
  | recover t kind f =>
    cases t with
    | success a => rfl
    | failure d =>
      rw [run, upshot, Attempt.recover]
      split
      · exact bind_ofExcept (f d.cause)
      · rfl
  | recoverWith t kind f =>
    cases t with
    | success a => rfl
    | failure d =>
      rw [run, upshot, Attempt.recoverWith]
      split
      · exact bind_settle (f d.cause)
      · rfl
  | orElse t supplier =>
    cases t with
    | success a => rfl
    | failure d => exact bind_settle supplier
  | transform t f g => cases t <;> exact bind_settle _
  | failed t =>
    cases t with
    | success a => exact bind_fail _
    | failure d => rfl
  | toAttempt m ifAbsent =>
    cases m with
    | present a => rfl
    | absent => exact bind_fail ifAbsent

/-- A cause that a function answered with is the one that is handed over. -/
theorem error?_map (m : Run σ (Except Cause α)) (f : Except Cause α → Upshot β)
    (hf : ∀ r, (f r).cause? = error? r) : error? <$> m = Upshot.cause? <$> f <$> m := by
  rw [Functor.map_map]
  exact congrArg (· <$> m) (funext fun r => (hf r).symm)

theorem refused_eq (p : Predicate σ α) (error : α → Run σ Cause) (a : α) :
    refused p error a = Upshot.cause? <$> screened (.success a) p error := by
  rw [refused, screened, map_bind]
  refine bind_congr fun r => ?_
  rcases r with c | _ | _
  · rfl
  · exact comp_map Upshot.handed Upshot.cause? (error a)
  · rfl

/-- What a call hands over is what its upshot says. -/
theorem handed_eq (q : CapturingCall σ α) : q.handed = Upshot.cause? <$> q.upshot := by
  have answer {β γ : Type} (embed : β → γ) (m : Run σ (Except Cause β)) :
      error? <$> m = Upshot.cause? <$> Upshot.ofAnswer embed <$> m :=
    error?_map m _ fun r => by cases r <;> rfl
  have given {β : Type} (m : Run σ (Except Cause β)) :
      error? <$> m = Upshot.cause? <$> Upshot.ofGiven <$> m :=
    error?_map m _ fun r => by cases r <;> rfl
  have raised {β : Type} (m : Run σ Cause) :
      some <$> m = Upshot.cause? <$> (Upshot.handed <$> m : Run σ (Upshot β)) :=
    comp_map Upshot.handed Upshot.cause? m
  have only {β : Type} (condition : Bool) {m : Run σ (Option Cause)} {n : Run σ (Upshot β)} (b : β)
      (h : m = Upshot.cause? <$> n) : (if condition then m else return none) =
        Upshot.cause? <$> (if condition then n else return .kept b) := by
    cases condition with
    | true => exact h
    | false => rfl
  cases q with
  | capture c | fail c => rfl
  | ofExcept r => cases r <;> rfl
  | ofResult toCause r =>
    cases r with
    | ok a => rfl
    | error e => exact raised (toCause e)
  | of m | lift f a => exact answer _ _
  | map t f =>
    cases t with
    | success a => exact answer _ (f a)
    | failure d => rfl
  | flatMap t f =>
    cases t with
    | success a => exact given (f a)
    | failure d => rfl
  | filter shown t p | filterOr t p error =>
    cases t with
    | success a => exact refused_eq p _ a
    | failure d => rfl
  | mapFailure t f =>
    cases t with
    | success a => rfl
    | failure d => exact comp_map (Upshot.handed ∘ either) Upshot.cause? (f d.cause)
  | recover t kind f =>
    cases t with
    | success a => rfl
    | failure d => exact only _ _ (answer _ (f d.cause))
  | recoverWith t kind f =>
    cases t with
    | success a => rfl
    | failure d => exact only _ _ (given (f d.cause))
  | orElse t supplier =>
    cases t with
    | success a => rfl
    | failure d => exact given supplier
  | transform t f g => cases t <;> exact given _
  | failed t =>
    cases t with
    | success a => exact raised _
    | failure d => rfl
  | toAttempt m ifAbsent =>
    cases m with
    | present a => rfl
    | absent => exact raised ifAbsent

end Upshots

/-! ## Handing over -/

section Handing

variable {s s' : Session σ} {c : Cause}

theorem exists_of_map_returned {m : Run σ α} {f : α → β} {b : β}
    (h : (f <$> m) s = (.returned b, s')) : ∃ a, m s = (.returned a, s') ∧ f a = b := by
  rw [Run.map_apply] at h
  rcases hm : m s with ⟨a | d | text, s₁⟩ <;> rw [hm] at h <;> cases h
  exact ⟨a, rfl, rfl⟩

/-- A function that hands over a cause answered with it. -/
theorem answered_of_handed {m : Run σ (Except Cause α)}
    (h : (error? <$> m) s = (.returned (some c), s')) : m s = (.returned (.error c), s') := by
  obtain ⟨r, hm, hr⟩ := exists_of_map_returned h
  cases r with
  | ok a => cases hr
  | error d =>
    cases hr
    exact hm

theorem upshot_of_handed {q : CapturingCall σ α} (h : q.handed s = (.returned (some c), s')) :
    q.upshot s = (.returned (.handed c), s') := by
  rw [q.handed_eq] at h
  obtain ⟨u, hu, hc⟩ := exists_of_map_returned h
  cases u with
  | kept a | given a => cases hc
  | handed d =>
    cases hc
    exact hu

/-- **A cause that is handed over is captured**, or unwinds from there, and that ends the call. -/
theorem run_eq_capture (q : CapturingCall σ α) (h : q.upshot s = (.returned (.handed c), s')) :
    q.run s = (q.ofCaptured <$> Captured.capture c) s' := by
  rw [q.run_eq, Run.bind_of_returned _ h]
  rfl

end Handing

/-- A fatal cause that is handed over unwinds as it is, and is reported as escaping before. -/
theorem run_of_handed_fatal (q : CapturingCall σ α) {s s' : Session σ} {c : Cause}
    (h : q.handed s = (.returned (some c), s')) (hc : s'.inEffect.isFatal c = true) :
    q.run s = (.thrown c, s'.decided.reporting (.escaping c)) := by
  -- capturing it is all that is left of the call, and capturing a fatal cause unwinds
  rw [q.run_eq_capture (upshot_of_handed h), Run.map_apply, Captured.capture_of_fatal hc]

end CapturingCall

end Fallible
