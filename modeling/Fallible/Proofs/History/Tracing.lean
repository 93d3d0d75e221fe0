import Fallible.Proofs.History.Operations

/-!
# Relations of runs and histories

Whatever an operation does, it does through a few steps: it raises conditions and reports, captures
causes, runs the functions that it is given, and hands out what the caller then holds. A relation of
runs and histories that holds of these steps, and of runs one after the other, holds of every
operation if it holds of the functions, and of whole programs by induction.

## Main definitions

* `Run.Tracing`: the relations that are closed under the steps
* `Program.Calls`: programs whose operations all have a property

## Main results

* `Attempt.Call.tracing_perform`, `Maybe.Call.tracing_perform`, `Operation.tracing_perform`: the
  operations
* `Program.tracing_run`: programs
-/

namespace Fallible

open History (silent judging capturing)

/-- A relation of runs and histories that is closed under what operations do. What the caller is
told of the classifier or of a verdict is held from then on. -/
structure Run.Tracing (T : ∀ ⦃α : Type⦄, Run Live α → History Live → Prop) : Prop where
  pure {α : Type} (a : α) : T (Pure.pure a) silent
  throw {α : Type} (c : Cause) : T (Run.throw c : Run Live α) silent
  panic {α : Type} (text : String) : T (Run.panic text : Run Live α) silent
  fresh : T Run.fresh silent
  emit (e : Event) : T (Run.emit e) silent
  hold (a : Answer) : T (Body.hold a) silent
  held : T Body.held silent
  install (k : Classifier) : T k.install (.installing k)
  capture (c : Cause) : T (Captured.capture c) (judging c)
  active : T (do Body.hold (.ok (.text (← Classifier.active).term.line))) fun _ => [.asked]
  judge (c : Cause) : T (do Body.hold (.ok (.bool (← c.judge)))) (judging c)
  ofCause (c : Cause) : T (do Body.hold (Operation.ofJudged (← Captured.ofCause c))) (judging c)
  bind {α β : Type} {m : Run Live α} {h : History Live} {f : α → Run Live β}
    {next : α → History Live} (hm : T m h) (hf : ∀ a, T (f a) (next a)) :
    T (m >>= f) (h.andThen m next)
  /-- Looking at how a run ends is no step. -/
  ending {α β : Type} {m : Run Live α} {m' : Run Live β} {h : History Live}
    (g : Outcome α → Outcome β) (hg : ∀ s, m' s = (g (m s).1, (m s).2)) (hm : T m h) : T m' h

variable {T : ∀ ⦃α : Type⦄, Run Live α → History Live → Prop} {α β : Type}

/-! ## What the library does without functions -/

namespace Run.Tracing

variable (hT : Tracing T) {m : Run Live α} {h : History Live}

include hT

/-- What has no history may come next. -/
theorem bind_silent {f : α → Run Live β} (hm : T m h) (hf : ∀ a, T (f a) silent) :
    T (m >>= f) h := by
  have hb := hT.bind hm hf
  rwa [History.andThen_silent] at hb

/-- What has no history may come first. -/
theorem after {f : α → Run Live β} {next : α → History Live} (hm : T m silent)
    (hf : ∀ a, T (f a) (next a)) : T (m >>= f) (.after m next) :=
  hT.bind hm hf

theorem map (f : α → β) (hm : T m h) : T (f <$> m) h := by
  rw [map_eq_pure_bind]
  exact hT.bind_silent hm fun _ => hT.pure _

/-- The answer is held. -/
theorem holding {m : Run Live Answer} (hm : T m h) : T (m >>= Body.hold) h :=
  hT.bind_silent hm hT.hold

theorem catching (hm : T m h) : T (Run.catching m) h := by
  refine hT.ending
    (fun
      | .returned a => .returned (.ok a)
      | .thrown c => .returned (.error c)
      | .panicked text => .panicked text) (fun s => ?_) hm
  rw [Run.catching]
  rcases m s with ⟨_ | _ | _, _⟩ <;> rfl

theorem shielded {body : Body} (hb : T body h) : T body.shielded h := by
  refine hT.ending
    (fun
      | .returned answer => .returned (.ofResult id answer)
      | .thrown c => .returned (.error (.cause c))
      | .panicked text => .returned (.error (.text text))) (fun s => ?_) hb
  rw [Body.shielded]
  rcases body s with ⟨_ | _ | _, _⟩ <;> rfl

theorem raise (kind : Kind) (message : Option String) : T (Cause.raise kind message) silent :=
  hT.bind_silent hT.fresh fun _ => hT.pure _

theorem wrap (kind : Kind) (c : Cause) : T (Cause.wrap kind c) silent :=
  hT.bind_silent hT.fresh fun _ => hT.pure _

theorem adopt (kind : Kind) (error : Foreign) : T (Cause.adopt kind error) silent :=
  hT.bind_silent hT.fresh fun _ => hT.pure _

theorem rethrow (c : Cause) : T (c.rethrow : Run Live α) silent :=
  hT.bind_silent (hT.emit _) fun _ => hT.throw c

theorem fail (c : Cause) : T (Attempt.fail c : Run Live (Attempt α)) (judging c) :=
  hT.map Attempt.failure (hT.capture c)

theorem ofExcept (r : Except Cause α) : T (Attempt.ofExcept r) (capturing r) := by
  cases r with
  | ok a => exact hT.pure _
  | error c => exact hT.fail c

theorem settle (r : Except Cause (Attempt α)) : T (Attempt.settle r) (capturing r) := by
  cases r with
  | ok t => exact hT.pure _
  | error c => exact hT.fail c

/-- Looking for a configuration and reading it has no history. -/
theorem load (h : Host) : T (Config.load h) silent := by
  have report (e : Event) (error : Config.Error) :
      T (do Run.emit e; Pure.pure (.error error : Except Config.Error (Option Config))) silent :=
    hT.bind_silent (hT.emit e) fun _ => hT.pure _
  rw [Config.load]
  split
  · exact hT.pure _
  · rw [Config.loadFrom]
    split
    · exact hT.pure _
    · split
      · exact report _ _
      · split
        · exact report _ _
        · exact hT.pure _

end Run.Tracing

/-! ## Functions that a caller passes -/

/-- What comes after an answer finds it among those held. -/
theorem History.andThen_hold (h next : History Live) (m : Run Live Answer) :
    h.andThen (m >>= Body.hold) (fun _ => next) =
      h.andThen m fun a s => next { s with caller := a :: s.caller } := by
  funext s
  simp only [andThen, Run.bind_apply]
  rcases m s with ⟨_ | _ | _, _⟩ <;> rfl

namespace Run.Tracing

variable [Carrier α] {view : View α} {code : Code} (hT : Tracing T)

include hT

theorem see (v : Value) : T (Body.see view v) silent := by
  rw [Body.see]
  cases view.read v with
  | some a => exact hT.pure _
  | none => exact hT.panic _

/-- Looking at the answers held has no history. -/
theorem receive (r : Recipe) : T (Body.receive view r) silent :=
  hT.bind_silent hT.held fun _ => hT.see _

theorem checked (hc : T code.run code.history) (v : Value) :
    T (Body.checked view code.run v) (code.given v) := by
  -- the function finds its argument among the answers held
  refine hT.after (hT.hold (.ok v)) fun _ => hT.bind_silent hc fun r => ?_
  cases r with
  | ok w => exact hT.bind_silent (hT.see w) fun _ => hT.pure _
  | error c => exact hT.pure _

theorem plain (hc : T code.run code.history) (v : Value) :
    T (Body.plain view code.run v) (code.given v) := by
  refine hT.bind_silent (hT.checked hc v) fun r => ?_
  cases r with
  | ok a => exact hT.pure _
  | error c => exact hT.throw c

theorem of (hc : T code.run code.history) (v : Value) :
    T (Attempt.of (Body.checked view code.run v)) (code.captured view v) :=
  hT.bind (hT.checked hc v) hT.ofExcept

end Run.Tracing

/-! ## Calls on attempts and maybes -/

section Calls

variable {f g : Code} (hT : Run.Tracing T)

include hT

theorem Attempt.Call.tracing_success (v : Value) (call : Attempt.Call) (hf : T f.run f.history)
    (hg : T g.run g.history) :
    T (call.perform (.success v) f.run g.run) (call.history f g (.success v)) := by
  cases call with
  | isSuccess | isFailure | toExcept | handle | toOption | toMaybe | toList | getOrElseThrow =>
    exact hT.pure _
  | get | getOrElseGet | toSum | mapFailure | recover | recoverWith | orElse | onFailure =>
    exact hT.map _ (hT.pure _)
  | getCause => exact hT.map _ (hT.bind_silent (hT.raise _ _) fun _ => hT.pure _)
  | join =>
    rw [perform]
    cases Attempt.ofOption? (.success v) with
    | some t => exact hT.pure _
    | none => exact hT.panic _
  | getOrElse other => exact hT.bind_silent (hT.receive other) fun _ => hT.pure _
  | fold => exact hT.map _ (hT.plain hg v)
  | map => exact hT.map _ (hT.of hf v)
  | flatMap => exact hT.map _ (hT.bind (hT.checked hf v) hT.settle)
  | filter =>
    refine hT.map _ (hT.bind (hT.checked hf v) fun r => ?_)
    rcases r with c | _ | _
    · exact hT.fail c
    · exact hT.after (hT.raise _ _) hT.fail
    · exact hT.pure _
  | filterOr =>
    refine hT.map _ (hT.bind (hT.checked hf v) fun r => ?_)
    rcases r with c | _ | _
    · exact hT.fail c
    · exact hT.bind (hT.plain hg v) hT.fail
    · exact hT.pure _
  | transform => exact hT.map _ (hT.bind (hT.checked hg v) hT.settle)
  | failed => exact hT.map _ (hT.after (hT.raise _ _) hT.fail)
  | forEach => exact hT.map _ (hT.checked hf v)
  | onSuccess => exact hT.map _ (hT.bind_silent (hT.checked hf v) fun _ => hT.pure _)

theorem Attempt.Call.tracing_failure (c : Captured) (call : Attempt.Call)
    (hf : T f.run f.history) :
    T (call.perform (.failure c) f.run g.run) (call.history f g (.failure c)) := by
  cases call with
  | isSuccess | isFailure | toExcept | handle | toOption | toMaybe | toList | join =>
    exact hT.pure _
  | getCause | map | flatMap | filter | filterOr | failed | forEach | onSuccess =>
    exact hT.map _ (hT.pure _)
  | get => exact hT.map _ (hT.bind_silent (hT.wrap _ _) fun _ => hT.pure _)
  | getOrElse other => exact hT.bind_silent (hT.receive other) fun _ => hT.pure _
  | getOrElseGet | fold => exact hT.map _ (hT.plain hf _)
  | getOrElseThrow => exact hT.map _ (hT.plain hf _)
  | toSum => exact hT.map _ (hT.map _ (hT.plain hf _))
  | mapFailure =>
    refine hT.map _ (hT.bind (hT.checked hf _) fun r => ?_)
    cases r with
    | ok mapped => exact hT.fail mapped
    | error mapped => exact hT.fail mapped
  | recover kind =>
    refine hT.map _ ?_
    rw [Attempt.recover, history]
    split
    · exact hT.of hf _
    · exact hT.pure _
  | recoverWith kind =>
    refine hT.map _ ?_
    rw [Attempt.recoverWith, history]
    split
    · exact hT.bind (hT.checked hf _) hT.settle
    · exact hT.pure _
  | orElse | transform => exact hT.map _ (hT.bind (hT.checked hf _) hT.settle)
  | onFailure => exact hT.map _ (hT.bind_silent (hT.checked hf _) fun _ => hT.pure _)

/-- **A call on an attempt** has its history if the functions have theirs. -/
theorem Attempt.Call.tracing_perform (t : Attempt Value) (call : Attempt.Call)
    (hf : T f.run f.history) (hg : T g.run g.history) :
    T (call.perform t f.run g.run) (call.history f g t) := by
  cases t with
  | success v => exact tracing_success hT v call hf hg
  | failure c => exact tracing_failure hT c call hf

theorem Maybe.Call.tracing_present (v : Value) (call : Maybe.Call) (hf : T f.run f.history)
    (hg : T g.run g.history) :
    T (call.perform (.present v) f.run g.run) (call.history f g (.present v)) := by
  cases call with
  | isPresent | isAbsent | handle | toOption | toList | getOrElseThrow => exact hT.pure _
  | get | getOrElseGet | toSum | orElse | onAbsent | toAttempt => exact hT.map _ (hT.pure _)
  | getOrElse other => exact hT.bind_silent (hT.receive other) fun _ => hT.pure _
  | fold | transform => exact hT.map _ (hT.plain hg v)
  | filter =>
    refine hT.map _ (hT.bind_silent (hT.plain hf v) fun holds => ?_)
    cases holds with
    | false => exact hT.pure _
    | true => exact hT.pure _
  | map => exact hT.map _ (hT.map _ (hT.plain hf v))
  | flatMap => exact hT.map _ (hT.plain hf v)
  | onPresent => exact hT.map _ (hT.bind_silent (hT.plain hf v) fun _ => hT.pure _)

theorem Maybe.Call.tracing_absent (call : Maybe.Call) (hf : T f.run f.history) :
    T (call.perform .absent f.run g.run) (call.history f g .absent) := by
  cases call with
  | isPresent | isAbsent | handle | toOption | toList => exact hT.pure _
  | filter | map | flatMap | onPresent => exact hT.map _ (hT.pure _)
  | get => exact hT.map _ (hT.bind_silent (hT.raise _ _) fun _ => hT.pure _)
  | getOrElse other => exact hT.bind_silent (hT.receive other) fun _ => hT.pure _
  | getOrElseGet | fold | orElse | transform => exact hT.map _ (hT.plain hf .unit)
  | getOrElseThrow => exact hT.map _ (hT.plain hf .unit)
  | toSum => exact hT.map _ (hT.map _ (hT.plain hf .unit))
  | onAbsent => exact hT.map _ (hT.bind_silent (hT.plain hf .unit) fun _ => hT.pure _)
  | toAttempt => exact hT.map _ (hT.bind (hT.plain hf .unit) hT.fail)

/-- **A call on a maybe** has its history if the functions have theirs. -/
theorem Maybe.Call.tracing_perform (m : Maybe Value) (call : Maybe.Call) (hf : T f.run f.history)
    (hg : T g.run g.history) : T (call.perform m f.run g.run) (call.history f g m) := by
  cases m with
  | present v => exact tracing_present hT v call hf hg
  | absent => exact tracing_absent hT call hf

end Calls

/-! ## Operations -/

namespace Operation

/-- A relation holds of the document that an operation reads, if it reads one. -/
def Reads (T : ∀ ⦃α : Type⦄, Run Live α → History Live → Prop) : Operation → Prop
  | decode schema bytes =>
    T (do Body.hold (ofDecoded (← schema.decodeBytes bytes)))
      (schema.history Schema.room (Json.read (Json.Symbol.ofBytes bytes)).tree)
  | _ => True

variable {f g : Code}

/-- **The step**: an operation whose answer is held has its history, if its functions have theirs
and if the document has its own that it may read. -/
theorem tracing_perform (hT : Run.Tracing T) (op : Operation) (hr : op.Reads T)
    (hf : T f.run f.history) (hg : T g.run g.history) :
    T (op.perform f.run g.run >>= Body.hold) (op.history f g) := by
  -- what an operation makes of the value that it is given
  have given {γ : Type} [Carrier γ] {view : View γ} {r : Recipe} {k : γ → Run Live Answer}
      {next : γ → History Live} (hk : ∀ v, T (k v) (next v)) :
      T ((Body.receive view r >>= k) >>= Body.hold) (.after (Body.receive view r) next) :=
    hT.holding (hT.after (hT.receive r) hk)
  cases op with
  | make r => exact hT.holding (hT.map _ (hT.receive r))
  | raise kind message => exact hT.holding (hT.map _ (hT.raise kind message))
  | wrap kind c => exact hT.holding (hT.map _ (hT.wrap kind c))
  | adopt kind error => exact hT.holding (hT.map _ (hT.adopt kind error))
  | throw c => exact hT.holding (hT.throw c)
  | panic text => exact hT.holding (hT.panic text)
  | catching => exact hT.holding (hT.map _ (hT.catching (hT.plain hf .unit)))
  | shielding => exact hT.holding (hT.shielded hf)
  | install k => exact hT.holding (hT.map _ (hT.install k))
  | configure h =>
    refine hT.holding (hT.map _ (hT.after (hT.load h) fun r => ?_))
    rcases r with error | _ | config
    · exact hT.pure _
    · exact hT.bind_silent (hT.emit _) fun _ => hT.pure _
    · refine hT.bind_silent (hT.install _) fun r => ?_
      cases r with
      | error error => exact hT.pure _
      | ok _ => exact hT.pure _
  | active =>
    rw [perform, bind_map_left]
    exact hT.active
  | judge c =>
    rw [perform, bind_map_left]
    exact hT.judge c
  | ofCause c =>
    rw [perform, bind_map_left]
    exact hT.ofCause c
  | capture c => exact hT.holding (hT.map _ (hT.capture c))
  | rethrow c => exact hT.holding (hT.rethrow c)
  | fail c => exact hT.holding (hT.map _ (hT.fail c))
  | of => exact hT.holding (hT.map _ (hT.of hf .unit))
  | ofResult isOk r =>
    refine given fun v => ?_
    cases isOk with
    | true => exact hT.map _ (hT.pure _)
    | false => exact hT.map _ (hT.bind (hT.plain hf v) hT.fail)
  | lift r => exact given fun v => hT.map _ (hT.of hf v)
  | andThen r =>
    refine given fun v => hT.map _ (hT.bind (hT.checked hf v) fun a => ?_)
    cases a with
    | ok w => exact hT.checked hg w
    | error c => exact hT.pure _
  | compose r =>
    refine given fun v => hT.map _ (hT.bind (hT.checked hg v) fun a => ?_)
    cases a with
    | ok w => exact hT.checked hf w
    | error c => exact hT.pure _
  | negate r =>
    refine given fun v => hT.map _ (hT.bind_silent (hT.checked hf v) fun a => ?_)
    cases a with
    | ok b => exact hT.pure _
    | error c => exact hT.pure _
  | and r =>
    refine given fun v => hT.map _ (hT.bind (hT.checked hf v) fun a => ?_)
    rcases a with c | _ | _
    · exact hT.pure _
    · exact hT.pure _
    · exact hT.checked hg v
  | or r =>
    refine given fun v => hT.map _ (hT.bind (hT.checked hf v) fun a => ?_)
    rcases a with c | _ | _
    · exact hT.pure _
    · exact hT.checked hg v
    · exact hT.pure _
  | followedBy r =>
    refine given fun v => hT.map _ (hT.bind (hT.checked hf v) fun a => ?_)
    rcases a with c | _
    · exact hT.pure _
    · exact hT.checked hg v
  | onAttempt r call => exact given fun t => Attempt.Call.tracing_perform hT t call hf hg
  | ofOption r => exact hT.holding (hT.bind_silent (hT.receive r) fun _ => hT.pure _)
  | when condition =>
    refine hT.holding (hT.map _ ?_)
    cases condition with
    | true => exact hT.map _ (hT.plain hf .unit)
    | false => exact hT.pure _
  | whenNot condition =>
    refine hT.holding (hT.map _ ?_)
    cases condition with
    | true => exact hT.pure _
    | false => exact hT.map _ (hT.plain hf .unit)
  | onMaybe r call => exact given fun m => Maybe.Call.tracing_perform hT m call hf hg
  | encode r => exact hT.holding (hT.bind_silent (hT.receive r) fun _ => hT.pure _)
  | decode schema bytes =>
    rw [perform, bind_map_left]
    exact hr

end Operation

/-! ## Programs -/

namespace Program

/-- All operations that a program may call have a property. -/
def Calls (P : Operation → Prop) : Program → Prop
  | answer _ | refuse _ => True
  | look next => ∀ live, (next live).Calls P
  | call op f g next => P op ∧ f.Calls P ∧ g.Calls P ∧ next.Calls P

theorem Calls.mono {P Q : Operation → Prop} (hPQ : ∀ op, P op → Q op) {p : Program}
    (h : p.Calls P) : p.Calls Q := by
  induction p with
  | answer | refuse => trivial
  | look next ih => exact fun live => ih live (h live)
  | call op f g next hf hg hn => exact ⟨hPQ op h.1, hf h.2.1, hg h.2.2.1, hn h.2.2.2⟩

theorem calls_of_forall {P : Operation → Prop} (p : Program) (hP : ∀ op, P op) : p.Calls P := by
  induction p with
  | answer | refuse => trivial
  | look next ih => exact ih
  | call op f g next hf hg hn => exact ⟨hP op, hf, hg, hn⟩

/-- **The run**: a program has its history. -/
theorem tracing_run (hT : Run.Tracing T) (p : Program) (hp : p.Calls (·.Reads T)) :
    T p.run p.history := by
  induction p with
  | answer r => exact hT.map _ (hT.receive r)
  | refuse c => exact hT.pure _
  | look next ih => exact hT.after hT.held fun live => ih live (hp live)
  | call op f g next hf hg hn =>
    obtain ⟨hop, hpf, hpg, hpn⟩ := hp
    have hstep := op.tracing_perform (f := ⟨f.run, f.history⟩) (g := ⟨g.run, g.history⟩) hT hop
      (hf hpf) (hg hpg)
    rw [run, ← bind_assoc, history, ← History.andThen_hold]
    exact hT.bind hstep fun _ => hn hpn

end Program

end Fallible
