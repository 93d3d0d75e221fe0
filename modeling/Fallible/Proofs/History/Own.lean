import Fallible.Proofs.History.Traced
import Fallible.Proofs.Unwinding.Capturing

/-!
# The steps that an operation takes itself

An operation takes steps through the functions that it runs, and it may take steps itself. One that
asks for the classifier, judges or installs, or reads a document, does so as its arguments tell. Any
other operation takes a step itself just when it hands over a cause to be captured, and then this is
the judgement of that cause. So an operation that has nothing to capture leaves no trace of its own.

## Main definitions

* `Operation.own`: the steps that an operation takes itself
* `Operation.handing`: running an operation up to the cause that it hands over
* `Operation.isQuiet`: the operations that never hand over a cause
* `Attempt.Call.isIdle`, `Maybe.Call.isIdle`: the branches with nothing to do

## Main results

* `Operation.within_own`, `Operation.mem_history_of_mem_own`: a step is the operation's own or one
  of its functions, and what is its own is a step
* `Operation.own_eq`: an operation of its own judges just what it hands over
* `Operation.own_of_isQuiet`, `Attempt.Call.history_of_isIdle`, `Maybe.Call.history_of_isIdle`:
  operations and branches that do not count
-/

namespace Fallible

open Body (checked plain receive)
open History (silent judging capturing after)

/-! ## Histories of parts -/

section Histories

variable {σ α β : Type}

namespace History

/-- A cause that was handed over is judged. -/
def handedOver : Option Cause → History σ
  | some c => judging c
  | none => silent

theorem after_bind (m : Run σ α) (k : α → Run σ β) (next : β → History σ) :
    after (m >>= k) next = after m fun a => after (k a) next := by
  funext s
  simp only [after, andThen, Run.bind_apply]
  rcases m s with ⟨_ | _ | _, _⟩ <;> rfl

theorem after_map (f : α → β) (m : Run σ α) (next : β → History σ) :
    after (f <$> m) next = after m fun a => next (f a) :=
  after_bind m (fun a => pure (f a)) next

/-- Where no step comes next either, there is none. -/
theorem after_eq_silent {m : Run σ α} {next : α → History σ} (h : ∀ a, next a = silent) :
    after m next = silent := by
  funext s
  simp only [after, andThen]
  rcases m s with ⟨a | _ | _, s'⟩
  · exact congrFun (h a) s'
  · rfl
  · rfl

theorem after_capturing (m : Run σ (Except Cause α)) :
    after m capturing = after (CapturingCall.error? <$> m) handedOver := by
  rw [after_map]
  congr 1
  funext r
  cases r <;> rfl

theorem after_judging (m : Run σ Cause) : after m judging = after (some <$> m) handedOver :=
  (after_map some m handedOver).symm

/-- Each step of a history is one of another history, or is of a certain sort. -/
def Within (P : Step → Prop) (h h' : History σ) : Prop :=
  ∀ s, ∀ e ∈ h s, e ∈ h' s ∨ P e

namespace Within

variable {P : Step → Prop} {h h' : History σ}

theorem refl (h : History σ) : Within P h h := fun _ _ => .inl

theorem of_forall (hp : ∀ s, ∀ e ∈ h s, P e) : Within P h h' := fun s e he => .inr (hp s e he)

theorem andThen {m : Run σ α} {next next' : α → History σ} (hh : Within P h h')
    (hn : ∀ a, Within P (next a) (next' a)) :
    Within P (h.andThen m next) (h'.andThen m next') := by
  intro s e he
  rw [mem_andThen_iff] at he ⊢
  obtain he | ⟨a, s', hm, he⟩ := he
  · exact (hh s e he).imp_left .inl
  · exact (hn a s' e he).imp_left fun he => .inr ⟨a, s', hm, he⟩

theorem after {m : Run σ α} {next next' : α → History σ}
    (hn : ∀ a, Within P (next a) (next' a)) : Within P (.after m next) (.after m next') :=
  (refl silent).andThen hn

end Within

end History

end Histories

/-! ## Own steps -/

/-- Caller code whose steps do not count. -/
def Code.muted (body : Body) : Code :=
  ⟨body, silent⟩

/-- The steps that a call takes itself, whatever those of its functions. -/
def Attempt.Call.own (f g : Body) (t : Attempt Value) (call : Attempt.Call) : History Live :=
  call.history (.muted f) (.muted g) t

/-- The steps that a call takes itself, whatever those of its functions. -/
def Maybe.Call.own (f g : Body) (m : Maybe Value) (call : Maybe.Call) : History Live :=
  call.history (.muted f) (.muted g) m

/-- The steps that an operation takes itself, whatever those of its functions. -/
def Operation.own (f g : Body) (op : Operation) : History Live :=
  op.history (.muted f) (.muted g)

section Own

open History (Within)

variable {P : Step → Prop} {f g : Body} {hf hf' hg hg' : History Live}

theorem Code.within_given (h : Within P hf hf') (v : Value) :
    Within P (Code.given ⟨f, hf⟩ v) (Code.given ⟨f, hf'⟩ v) :=
  fun _ => h _

open Code (within_given)

theorem Attempt.Call.within_history (t : Attempt Value) (call : Attempt.Call)
    (hwf : Within P hf hf') (hwg : Within P hg hg') :
    Within P (call.history ⟨f, hf⟩ ⟨g, hg⟩ t) (call.history ⟨f, hf'⟩ ⟨g, hg'⟩ t) := by
  cases t with
  | success v =>
    cases call with
    | forEach | onSuccess => exact within_given hwf v
    | fold => exact within_given hwg v
    | map | flatMap => exact (within_given hwf v).andThen fun _ => .refl _
    | transform => exact (within_given hwg v).andThen fun _ => .refl _
    | filter => exact (within_given hwf v).andThen fun _ => .refl _
    | filterOr =>
      refine (within_given hwf v).andThen fun r => ?_
      rcases r with c | _ | _
      · exact .refl _
      · exact (within_given hwg v).andThen fun _ => .refl _
      · exact .refl _
    | _ => exact .refl _
  | failure c =>
    cases call with
    | getOrElseThrow | toSum | fold | onFailure | getOrElseGet => exact within_given hwf _
    | mapFailure | orElse | transform => exact (within_given hwf _).andThen fun _ => .refl _
    | recover kind | recoverWith kind =>
      rw [history, history]
      split
      · exact (within_given hwf _).andThen fun _ => .refl _
      · exact .refl _
    | _ => exact .refl _

theorem Maybe.Call.within_history (m : Maybe Value) (call : Maybe.Call)
    (hwf : Within P hf hf') (hwg : Within P hg hg') :
    Within P (call.history ⟨f, hf⟩ ⟨g, hg⟩ m) (call.history ⟨f, hf'⟩ ⟨g, hg'⟩ m) := by
  cases m with
  | present v =>
    cases call with
    | filter | map | flatMap | onPresent => exact within_given hwf v
    | fold | transform => exact within_given hwg v
    | _ => exact .refl _
  | absent =>
    cases call with
    | getOrElseGet | getOrElseThrow | toSum | fold | orElse | transform | onAbsent =>
      exact within_given hwf .unit
    | toAttempt => exact (within_given hwf .unit).andThen fun _ => .refl _
    | _ => exact .refl _

/-- **The history of an operation** grows with those of its functions. -/
theorem Operation.within_history (op : Operation) (hwf : Within P hf hf')
    (hwg : Within P hg hg') :
    Within P (op.history ⟨f, hf⟩ ⟨g, hg⟩) (op.history ⟨f, hf'⟩ ⟨g, hg'⟩) := by
  cases op with
  | catching => exact within_given hwf .unit
  | shielding => exact hwf
  | of => exact (within_given hwf .unit).andThen fun _ => .refl _
  | ofResult isOk r =>
    rw [history, history]
    refine .after fun v => ?_
    cases isOk with
    | true => exact .refl _
    | false => exact (within_given hwf v).andThen fun _ => .refl _
  | lift r => exact .after fun v => (within_given hwf v).andThen fun _ => .refl _
  | andThen r =>
    refine .after fun v => (within_given hwf v).andThen fun a => ?_
    cases a with
    | ok w => exact within_given hwg w
    | error c => exact .refl _
  | compose r =>
    refine .after fun v => (within_given hwg v).andThen fun a => ?_
    cases a with
    | ok w => exact within_given hwf w
    | error c => exact .refl _
  | negate r => exact .after fun v => within_given hwf v
  | and r =>
    rw [history, history]
    refine .after fun v => (within_given hwf v).andThen fun a => ?_
    rcases a with c | _ | _
    · exact .refl _
    · exact .refl _
    · exact within_given hwg v
  | or r =>
    rw [history, history]
    refine .after fun v => (within_given hwf v).andThen fun a => ?_
    rcases a with c | _ | _
    · exact .refl _
    · exact within_given hwg v
    · exact .refl _
  | followedBy r =>
    rw [history, history]
    refine .after fun v => (within_given hwf v).andThen fun a => ?_
    cases a with
    | ok _ => exact within_given hwg v
    | error c => exact .refl _
  | onAttempt r call => exact .after fun t => Attempt.Call.within_history t call hwf hwg
  | when condition =>
    cases condition with
    | true => exact within_given hwf .unit
    | false => exact .refl _
  | whenNot condition =>
    cases condition with
    | true => exact .refl _
    | false => exact within_given hwf .unit
  | onMaybe r call => exact .after fun m => Maybe.Call.within_history m call hwf hwg
  | _ => exact .refl _

/-- A step of either function. -/
def Code.Step (f g : Code) (e : Step) : Prop :=
  (∃ s, e ∈ f.history s) ∨ ∃ s, e ∈ g.history s

/-- **A step of an operation** is the operation's own, or it is one of the functions. -/
theorem Operation.within_own (op : Operation) (f g : Code) :
    Within (f.Step g) (op.history f g) (op.own f.run g.run) :=
  op.within_history (.of_forall fun _ _ he => .inl ⟨_, he⟩) (.of_forall fun _ _ he => .inr ⟨_, he⟩)

/-- The steps that an operation takes itself are steps of it. -/
theorem Operation.mem_history_of_mem_own (op : Operation) {f g : Code} {s : Session Live}
    {e : Step} (he : e ∈ op.own f.run g.run s) : e ∈ op.history f g s := by
  have hs (h : History Live) : Within (fun _ => False) silent h :=
    .of_forall fun _ _ hn => nomatch hn
  exact (op.within_history (hs f.history) (hs g.history) s e he).resolve_right id

end Own

/-! ## Handing over a cause -/

/-- Runs a call up to the cause that it hands over to be captured, if it comes by one. -/
def Attempt.Call.handing (t : Attempt Value) (f g : Body) : Attempt.Call → Run Live (Option Cause)
  | map => (CapturingCall.map t (checked .self f)).handed
  | flatMap => (CapturingCall.flatMap t (checked .attempt f)).handed
  | filter => (CapturingCall.filter inferInstance t (checked .bool f)).handed
  | filterOr => (CapturingCall.filterOr t (checked .bool f) (plain .cause g)).handed
  | mapFailure => (CapturingCall.mapFailure t fun c => checked .cause f (.cause c)).handed
  | recover kind => (CapturingCall.recover t kind fun c => checked .self f (.cause c)).handed
  | recoverWith kind =>
    (CapturingCall.recoverWith t kind fun c => checked .attempt f (.cause c)).handed
  | orElse => (CapturingCall.orElse t (checked .attempt f .unit)).handed
  | transform =>
    (CapturingCall.transform t (fun c => checked .attempt f (.cause c))
      (checked .attempt g)).handed
  | failed => (CapturingCall.failed t).handed
  | _ => return none

/-- Runs a call up to the cause that it hands over to be captured, if it comes by one. -/
def Maybe.Call.handing (m : Maybe Value) (f : Body) : Maybe.Call → Run Live (Option Cause)
  | toAttempt => (CapturingCall.toAttempt m (plain .cause f .unit)).handed
  | _ => return none

namespace Operation

/-- Runs an operation up to the cause that it hands over to be captured, if it comes by one. -/
def handing (f g : Body) : Operation → Run Live (Option Cause)
  | capture c | fail c => return some c
  | of => (CapturingCall.of (checked .self f .unit)).handed
  | ofResult isOk r => do
    let v ← receive .self r
    (CapturingCall.ofResult (plain .cause f) (if isOk then Except.ok v else .error v)).handed
  | lift r => do (CapturingCall.lift (checked .self f) (← receive .self r)).handed
  | onAttempt r call => do call.handing (← receive .attempt r) f g
  | onMaybe r call => do call.handing (← receive .maybe r) f
  | _ => return none

/-- Whether an operation asks for the classifier, judges, installs or reads by its own right. -/
def isDirect : Operation → Bool
  | install _ | configure _ | active | judge _ | ofCause _ | decode _ _ => true
  | _ => false

end Operation

section Handing

open History (handedOver after_bind after_map after_eq_silent after_capturing after_judging)

variable (f g : Body)

theorem Attempt.Call.own_eq (t : Attempt Value) (call : Attempt.Call) :
    call.own f g t = after (call.handing t f g) handedOver := by
  cases t with
  | success v =>
    cases call with
    | map | flatMap | transform => exact after_capturing _
    | filter | filterOr =>
      refine Eq.trans ?_ (after_bind _ _ _).symm
      refine congrArg (after _) (funext fun r => ?_)
      rcases r with c | _ | _
      · rfl
      · exact after_judging _
      · rfl
    | failed => exact after_judging (Cause.unsupported _)
    | _ => rfl
  | failure c =>
    cases call with
    | mapFailure =>
      refine Eq.trans ?_ (after_map _ _ _).symm
      refine congrArg (after _) (funext fun r => ?_)
      cases r <;> rfl
    | recover kind =>
      show _ = after (if c.cause.isA kind then
        CapturingCall.error? <$> checked .self f (.cause c.cause) else return none) handedOver
      rw [own, history]
      split
      · exact after_capturing _
      · rfl
    | recoverWith kind =>
      show _ = after (if c.cause.isA kind then
        CapturingCall.error? <$> checked .attempt f (.cause c.cause) else return none) handedOver
      rw [own, history]
      split
      · exact after_capturing _
      · rfl
    | orElse | transform => exact after_capturing _
    | _ => rfl

theorem Maybe.Call.own_eq (m : Maybe Value) (call : Maybe.Call) :
    call.own f g m = after (call.handing m f) handedOver := by
  cases m with
  | present v => cases call <;> rfl
  | absent =>
    cases call with
    | toAttempt => exact after_judging _
    | _ => rfl

/-- **An operation takes a step itself** just when it hands over a cause, unless it is one that
judges by its own right. -/
theorem Operation.own_eq (op : Operation) (h : op.isDirect = false) :
    op.own f g = after (op.handing f g) handedOver := by
  have receiving {α : Type} [Carrier α] (view : View α) (r : Recipe) {own : α → History Live}
      {k : α → Run Live (Option Cause)} (ho : ∀ a, own a = after (k a) handedOver) :
      after (receive view r) own = after (receive view r >>= k) handedOver := by
    rw [after_bind]
    exact congrArg _ (funext ho)
  cases op with
  | install k | configure k | active | judge c | ofCause c | decode schema bytes => cases h
  | of => exact after_capturing _
  | ofResult isOk r =>
    cases isOk with
    | true => exact receiving .self r (k := fun _ => return none) fun v => rfl
    | false => exact receiving .self r fun v => after_judging (plain .cause f v)
  | lift r => exact receiving .self r fun v => after_capturing _
  | andThen r | compose r | followedBy r =>
    rw [own, history]
    refine after_eq_silent fun v => after_eq_silent fun a => ?_
    cases a <;> rfl
  | and r | or r =>
    rw [own, history]
    refine after_eq_silent fun v => after_eq_silent fun a => ?_
    rcases a with c | _ | _ <;> rfl
  | negate r =>
    rw [own, history]
    exact after_eq_silent fun v => rfl
  | onAttempt r call => exact receiving .attempt r fun t => Attempt.Call.own_eq f g t call
  | when condition => cases condition <;> rfl
  | whenNot condition => cases condition <;> rfl
  | onMaybe r call => exact receiving .maybe r fun m => Maybe.Call.own_eq f g m call
  | _ => rfl

end Handing

/-! ## What does not count -/

/-- Whether a call on an attempt hands over no cause, in either state. -/
def Attempt.Call.isQuiet : Attempt.Call → Bool
  | isSuccess | isFailure | get | toExcept | getCause | handle | toOption | toMaybe | toList | join
  | getOrElse _ | getOrElseGet | getOrElseThrow | toSum | fold | forEach | onSuccess
  | onFailure => true
  | map | flatMap | filter | filterOr | mapFailure | recover _ | recoverWith _ | orElse | transform
  | failed => false

/-- Whether a call on a maybe hands over no cause, in either state. -/
def Maybe.Call.isQuiet : Maybe.Call → Bool
  | toAttempt => false
  | _ => true

/-- Whether an operation hands over no cause, whatever it is called on. -/
def Operation.isQuiet : Operation → Bool
  | make _ | raise _ _ | wrap _ _ | adopt _ _ | throw _ | panic _ | rethrow _ | catching | shielding
  | andThen _ | compose _ | negate _ | and _ | or _ | followedBy _ | ofOption _ | when _
  | whenNot _ | encode _ => true
  | onAttempt _ call => call.isQuiet
  | onMaybe _ call => call.isQuiet
  | install _ | configure _ | active | judge _ | ofCause _ | capture _ | fail _ | of | ofResult _ _
  | lift _ | decode _ _ => false

/-- Whether a call on an attempt has nothing to do in the state that the attempt is in. -/
def Attempt.Call.isIdle : Attempt Value → Attempt.Call → Bool
  | .success _, getOrElse _ | .success _, getOrElseGet | .success _, getOrElseThrow
  | .success _, toSum | .success _, mapFailure | .success _, recover _ | .success _, recoverWith _
  | .success _, orElse | .success _, onFailure => true
  | .failure _, map | .failure _, flatMap | .failure _, filter | .failure _, filterOr
  | .failure _, failed | .failure _, forEach | .failure _, onSuccess => true
  | .failure c, recover kind | .failure c, recoverWith kind => !c.cause.isA kind
  | _, _ => false

/-- Whether a call on a maybe has nothing to do in the state that the maybe is in. -/
def Maybe.Call.isIdle : Maybe Value → Maybe.Call → Bool
  | .present _, getOrElse _ | .present _, getOrElseGet | .present _, getOrElseThrow
  | .present _, toSum | .present _, orElse | .present _, onAbsent | .present _, toAttempt => true
  | .absent, filter | .absent, map | .absent, flatMap | .absent, onPresent => true
  | _, _ => false

section Quiet

open History (after_eq_silent)

/-- **An operation that hands over no cause** takes no step itself. -/
theorem Operation.own_of_isQuiet {op : Operation} (h : op.isQuiet = true) (f g : Body) :
    op.own f g = silent := by
  have hd : op.isDirect = false := by cases op <;> first | rfl | cases h
  rw [own_eq f g op hd]
  cases op with
  | onAttempt r call =>
    have hn : ∀ t, call.handing t f g = return none := by
      intro t
      cases call <;> first | rfl | cases h
    rw [handing, History.after_bind]
    refine after_eq_silent fun t => ?_
    rw [hn t]
    rfl
  | onMaybe r call =>
    have hn : ∀ m, call.handing m f = return none := by
      intro m
      cases call <;> first | rfl | cases h
    rw [handing, History.after_bind]
    refine after_eq_silent fun m => ?_
    rw [hn m]
    rfl
  | install k | configure k | active | judge c | ofCause c | capture c | fail c | of | ofResult b r
  | lift r | decode schema bytes => cases h
  | _ => rfl

variable {f g : Code}

/-- **A branch with nothing to do** takes no steps, and runs no function that could. -/
theorem Attempt.Call.history_of_isIdle {t : Attempt Value} {call : Attempt.Call}
    (h : call.isIdle t = true) : call.history f g t = silent := by
  cases t with
  | success v => cases call <;> first | rfl | cases h
  | failure c =>
    cases call with
    | recover kind | recoverWith kind =>
      have hk : c.cause.isA kind = false := by simpa [isIdle] using h
      rw [history, hk]
      rfl
    | _ => first | rfl | cases h

/-- A branch with nothing to do takes no steps, and runs no function that could. -/
theorem Maybe.Call.history_of_isIdle {m : Maybe Value} {call : Maybe.Call}
    (h : call.isIdle m = true) : call.history f g m = silent := by
  cases m <;> cases call <;> first | rfl | cases h

end Quiet

end Fallible
