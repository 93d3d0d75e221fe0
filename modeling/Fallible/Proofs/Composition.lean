import Fallible.Proofs.Judgement

/-!
# Compositions of maybes

A maybe is an option by another name. Every operation on it does what its counterpart on options
does, with the same plain code run at the same places, so every composition of operations does, in
whatever way one is put into another. Nothing else happens in a composition: it is a row of runs of
its plain code, and what unwinds out of one of these unwinds out of all of it.

## Main definitions

* `Maybe.Composition`: operations on maybes, with compositions for the functions that they take
* `Maybe.Composition.run`, `Maybe.Composition.runOptions`: running one on maybes and on options
* `Maybe.Composition.Each`: what holds of all plain code of a composition
* `Run.InRow`, `Run.Row`: rows of runs of plain code

## Main results

* `Maybe.toOption_map`, `Maybe.fold_eq`, …: each operation and its counterpart
* `Maybe.Composition.runOptions_eq`: a composition on options does what it does on maybes
* `Maybe.Composition.row_run`: a composition does nothing but run its plain code
* `Maybe.Composition.simulates_options`: all of it
-/

namespace Fallible

variable {σ α β ε : Type}

/-! ## Rows of runs -/

/-- Plain code, whatever it answers with. -/
structure Closure (σ : Type) : Type 1 where
  {Answer : Type}
  body : Run σ Answer

namespace Run

/-- How a row of runs of plain code ends that begins in a session: each run begins where the one
before it ended, and the first that unwinds is the last. -/
inductive InRow (P : Closure σ → Prop) {α : Type} :
    Session σ → Outcome α → Session σ → Prop where
  | returned (a : α) (s : Session σ) : InRow P s (.returned a) s
  | next {f : Closure σ} {b : f.Answer} {s s₁ s' : Session σ} {o : Outcome α} (holds : P f)
      (runs : f.body s = (.returned b, s₁)) (later : InRow P s₁ o s') : InRow P s o s'
  | thrown {f : Closure σ} {c : Cause} {s s' : Session σ} (holds : P f)
      (runs : f.body s = (.thrown c, s')) : InRow P s (.thrown c) s'
  | panicked {f : Closure σ} {text : String} {s s' : Session σ} (holds : P f)
      (runs : f.body s = (.panicked text, s')) : InRow P s (.panicked text) s'

/-- A run that is a row of runs of plain code, in every session. -/
def Row (P : Closure σ → Prop) (m : Run σ α) : Prop :=
  ∀ s, InRow P s (m s).1 (m s).2

section Row

variable {P : Closure σ → Prop} {s s' : Session σ}

namespace InRow

/-- A row is gone on with where it returned. What unwound out of it stays, whatever the type that
is answered with, by induction on the row. -/
theorem andThen {o : Outcome α} {f : α → Run σ β} (h : InRow P s o s') (hf : ∀ a, Row P (f a)) :
    let whole : Run σ β := (fun _ => (o, s') : Run σ α) >>= f
    InRow P s (whole s).1 (whole s).2 := by
  induction h with
  | returned a s => exact hf a s
  | next holds runs _ ih => exact .next holds runs ih
  | thrown holds runs => exact .thrown holds runs
  | panicked holds runs => exact .panicked holds runs

/-- What every run of a row leaves as it is in a session, the row leaves as it is. -/
theorem keeps {γ : Type} {view : Session σ → γ} {o : Outcome α}
    (h : InRow (fun f => ∀ s, view (f.body s).2 = view s) s o s') : view s' = view s := by
  induction h with
  | returned => rfl
  | next holds runs _ ih => exact ih.trans (congrArg (view ·.2) runs ▸ holds _)
  | thrown holds runs => exact congrArg (view ·.2) runs ▸ holds _
  | panicked holds runs => exact congrArg (view ·.2) runs ▸ holds _

end InRow

namespace Row

theorem pure (a : α) : Row P (Pure.pure a) :=
  fun s => .returned a s

theorem code {m : Run σ α} (h : P ⟨m⟩) : Row P m := by
  intro s
  rcases hm : m s with ⟨a | c | text, s'⟩
  · exact .next (f := ⟨m⟩) h hm (.returned a s')
  · exact .thrown (f := ⟨m⟩) h hm
  · exact .panicked (f := ⟨m⟩) h hm

/-- **Rows one after the other** are a row. -/
theorem bind {m : Run σ α} {f : α → Run σ β} (hm : Row P m) (hf : ∀ a, Row P (f a)) :
    Row P (m >>= f) :=
  fun s => (hm s).andThen hf

theorem map {m : Run σ α} (f : α → β) (hm : Row P m) : Row P (f <$> m) :=
  hm.bind fun a => pure (f a)

end Row

end Row

end Run

namespace Maybe

/-! ## Operations and their counterparts -/

theorem ofOption_toOption (m : Maybe α) : ofOption m.toOption = m := by
  cases m <;> rfl

theorem toOption_ofOption (o : Option α) : (ofOption o).toOption = o := by
  cases o <;> rfl

theorem map_toOption_present (m : Run σ α) : toOption <$> (present <$> m) = some <$> m :=
  (comp_map present toOption m).symm

theorem toOption_when (condition : Bool) (supplier : Run σ α) :
    toOption <$> when condition supplier =
      if condition then some <$> supplier else pure none := by
  cases condition with
  | true => exact map_toOption_present supplier
  | false => rfl

theorem toOption_whenNot (condition : Bool) (supplier : Run σ α) :
    toOption <$> whenNot condition supplier =
      if condition then pure none else some <$> supplier := by
  cases condition with
  | true => rfl
  | false => exact map_toOption_present supplier

theorem toOption_map (m : Maybe α) (f : α → Run σ β) :
    toOption <$> m.map f = m.toOption.mapM f := by
  cases m with
  | present a => exact map_toOption_present (f a)
  | absent => rfl

theorem toOption_filter (m : Maybe α) (p : α → Run σ Bool) :
    toOption <$> m.filter p = m.toOption.filterM p := by
  cases m with
  | absent => rfl
  | present a =>
    show toOption <$> (p a >>= _) = (fun b => if b = true then some a else none) <$> p a
    rw [map_bind, map_eq_pure_bind]
    refine bind_congr fun b => ?_
    cases b <;> rfl

theorem toOption_flatMap (m : Maybe α) (f : α → Run σ (Maybe β)) :
    toOption <$> m.flatMap f = m.toOption.bindM fun a => toOption <$> f a := by
  cases m <;> rfl

theorem toOption_orElse (m : Maybe α) (supplier : Run σ (Maybe α)) :
    toOption <$> m.orElse supplier =
      m.toOption.elim (toOption <$> supplier) fun a => pure (some a) := by
  cases m <;> rfl

theorem toOption_transform (m : Maybe α) (ifAbsent : Run σ (Maybe β))
    (ifPresent : α → Run σ (Maybe β)) :
    toOption <$> m.transform ifAbsent ifPresent =
      m.toOption.elim (toOption <$> ifAbsent) fun a => toOption <$> ifPresent a := by
  cases m <;> rfl

theorem fold_eq (m : Maybe α) (ifAbsent : Run σ β) (ifPresent : α → Run σ β) :
    m.fold ifAbsent ifPresent = m.toOption.elim ifAbsent ifPresent := by
  cases m <;> rfl

theorem getOrElse_eq (m : Maybe α) (other : α) : m.getOrElse other = m.toOption.getD other := by
  cases m <;> rfl

theorem getOrElseGet_eq (m : Maybe α) (supplier : Run σ α) :
    m.getOrElseGet supplier = m.toOption.getDM supplier := by
  cases m <;> rfl

theorem getOrElseThrow_eq (m : Maybe α) (error : Run σ ε) :
    m.getOrElseThrow error = m.toOption.elim (Except.error <$> error) fun a => pure (.ok a) := by
  cases m <;> rfl

theorem toSum_eq (m : Maybe α) (left : Run σ β) :
    m.toSum left = m.toOption.elim (Sum.inl <$> left) fun a => pure (.inr a) := by
  cases m <;> rfl

theorem toList_eq (m : Maybe α) : m.toList = m.toOption.toList := by
  cases m <;> rfl

/-! ## Compositions -/

/-- What a composition answers with. -/
inductive Shape where
  /-- A maybe, for more operations. -/
  | maybe (α : Type)
  | plain (α : Type)

/-- The answers of a shape. -/
@[reducible] def Shape.Maybes : Shape → Type
  | maybe α => Maybe α
  | plain α => α

/-- The answers of a shape, with options for maybes. -/
@[reducible] def Shape.Options : Shape → Type
  | maybe α => Option α
  | plain α => α

/-- An answer with an option for its maybe. -/
def Shape.toOptions : (r : Shape) → r.Maybes → r.Options
  | maybe _, m => m.toOption
  | plain _, a => a

/-- Operations on maybes, one on the answer of the other. The functions that an operation takes are
compositions as well; where they are just plain code they are `code`. -/
inductive Composition (σ : Type) : Shape → Type 1 where
  /-- Plain code, which may do anything. -/
  | code {α : Type} (m : Run σ α) : Composition σ (.plain α)
  /-- Goes on with a plain answer. -/
  | andThen {α : Type} {r : Shape} (first : Composition σ (.plain α))
      (next : α → Composition σ r) : Composition σ r
  | of {α : Type} (option : Option α) : Composition σ (.maybe α)
  | when {α : Type} (condition : Bool) (supplier : Composition σ (.plain α)) :
      Composition σ (.maybe α)
  | whenNot {α : Type} (condition : Bool) (supplier : Composition σ (.plain α)) :
      Composition σ (.maybe α)
  | map {α β : Type} (m : Composition σ (.maybe α)) (mapper : α → Composition σ (.plain β)) :
      Composition σ (.maybe β)
  | flatMap {α β : Type} (m : Composition σ (.maybe α)) (mapper : α → Composition σ (.maybe β)) :
      Composition σ (.maybe β)
  | filter {α : Type} (m : Composition σ (.maybe α)) (predicate : α → Composition σ (.plain Bool)) :
      Composition σ (.maybe α)
  | orElse {α : Type} (m supplier : Composition σ (.maybe α)) : Composition σ (.maybe α)
  | transform {α β : Type} (m : Composition σ (.maybe α)) (ifAbsent : Composition σ (.maybe β))
      (ifPresent : α → Composition σ (.maybe β)) : Composition σ (.maybe β)
  | fold {α β : Type} (m : Composition σ (.maybe α)) (ifAbsent : Composition σ (.plain β))
      (ifPresent : α → Composition σ (.plain β)) : Composition σ (.plain β)
  | getOrElse {α : Type} (m : Composition σ (.maybe α)) (other : α) : Composition σ (.plain α)
  | getOrElseGet {α : Type} (m : Composition σ (.maybe α)) (supplier : Composition σ (.plain α)) :
      Composition σ (.plain α)
  | getOrElseThrow {α ε : Type} (m : Composition σ (.maybe α)) (error : Composition σ (.plain ε)) :
      Composition σ (.plain (Except ε α))
  | toSum {α β : Type} (m : Composition σ (.maybe α)) (left : Composition σ (.plain β)) :
      Composition σ (.plain (β ⊕ α))
  | toList {α : Type} (m : Composition σ (.maybe α)) : Composition σ (.plain (List α))
  | toOption {α : Type} (m : Composition σ (.maybe α)) : Composition σ (.plain (Option α))

namespace Composition

variable {r : Shape}

/-- Runs a composition. -/
def run {r : Shape} : Composition σ r → Run σ r.Maybes
  | code m => m
  | andThen first next => do (next (← first.run)).run
  | of option => return ofOption option
  | when condition supplier => Maybe.when condition supplier.run
  | whenNot condition supplier => Maybe.whenNot condition supplier.run
  | map m mapper => do (← m.run).map fun a => (mapper a).run
  | flatMap m mapper => do (← m.run).flatMap fun a => (mapper a).run
  | filter m predicate => do (← m.run).filter fun a => (predicate a).run
  | orElse m supplier => do (← m.run).orElse supplier.run
  | transform m ifAbsent ifPresent => do
    (← m.run).transform ifAbsent.run fun a => (ifPresent a).run
  | fold m ifAbsent ifPresent => do (← m.run).fold ifAbsent.run fun a => (ifPresent a).run
  | getOrElse m other => return (← m.run).getOrElse other
  | getOrElseGet m supplier => do (← m.run).getOrElseGet supplier.run
  | getOrElseThrow m error => do (← m.run).getOrElseThrow error.run
  | toSum m left => do (← m.run).toSum left.run
  | toList m => return (← m.run).toList
  | toOption m => return (← m.run).toOption

/-- Runs the counterpart of a composition on options. -/
def runOptions {r : Shape} : Composition σ r → Run σ r.Options
  | code m => m
  | andThen first next => do (next (← first.runOptions)).runOptions
  | of option => return option
  | when condition supplier =>
    if condition then some <$> supplier.runOptions else return none
  | whenNot condition supplier =>
    if condition then return none else some <$> supplier.runOptions
  | map m mapper => do (← m.runOptions).mapM fun a => (mapper a).runOptions
  | flatMap m mapper => do (← m.runOptions).bindM fun a => (mapper a).runOptions
  | filter m predicate => do (← m.runOptions).filterM fun a => (predicate a).runOptions
  | orElse m supplier => do
    (← m.runOptions).elim supplier.runOptions fun a => return some a
  | transform m ifAbsent ifPresent => do
    (← m.runOptions).elim ifAbsent.runOptions fun a => (ifPresent a).runOptions
  | fold m ifAbsent ifPresent => do
    (← m.runOptions).elim ifAbsent.runOptions fun a => (ifPresent a).runOptions
  | getOrElse m other => return (← m.runOptions).getD other
  | getOrElseGet m supplier => do (← m.runOptions).getDM supplier.runOptions
  | getOrElseThrow m error => do
    (← m.runOptions).elim (.error <$> error.runOptions) fun a => return .ok a
  | toSum m left => do (← m.runOptions).elim (.inl <$> left.runOptions) fun a => return .inr a
  | toList m => return (← m.runOptions).toList
  | toOption m => m.runOptions

/-- Whether something holds of all plain code of a composition, whatever its functions are applied
to. -/
def Each (P : Closure σ → Prop) {r : Shape} : Composition σ r → Prop
  | code m => P ⟨m⟩
  | andThen first next => first.Each P ∧ ∀ a, (next a).Each P
  | of _ => True
  | when _ supplier | whenNot _ supplier => supplier.Each P
  | map m mapper => m.Each P ∧ ∀ a, (mapper a).Each P
  | flatMap m mapper => m.Each P ∧ ∀ a, (mapper a).Each P
  | filter m predicate => m.Each P ∧ ∀ a, (predicate a).Each P
  | orElse m supplier => m.Each P ∧ supplier.Each P
  | transform m ifAbsent ifPresent => m.Each P ∧ ifAbsent.Each P ∧ ∀ a, (ifPresent a).Each P
  | fold m ifAbsent ifPresent => m.Each P ∧ ifAbsent.Each P ∧ ∀ a, (ifPresent a).Each P
  | getOrElse m _ => m.Each P
  | getOrElseGet m supplier => m.Each P ∧ supplier.Each P
  | getOrElseThrow m error => m.Each P ∧ error.Each P
  | toSum m left => m.Each P ∧ left.Each P
  | toList m | toOption m => m.Each P

/-! ## Compositions on options -/

/-- A plain answer is the same with options. -/
theorem map_toOptions_plain (m : Run σ α) : (Shape.plain α).toOptions <$> m = m :=
  id_map m

theorem eq_run_of_plain {c : Composition σ (.plain α)}
    (h : c.runOptions = (Shape.plain α).toOptions <$> c.run) : c.runOptions = c.run :=
  h.trans (map_toOptions_plain c.run)

section Bind

variable {m : Composition σ (.maybe α)} {g : Option α → Run σ r.Options}

/-- Where what comes next does the same on options, so does the whole. -/
theorem bind_runOptions (hm : m.runOptions = (Shape.maybe α).toOptions <$> m.run)
    {f : Maybe α → Run σ r.Maybes} (hfg : ∀ x, r.toOptions <$> f x = g x.toOption) :
    m.runOptions >>= g = r.toOptions <$> (m.run >>= f) := by
  rw [hm, bind_map_left, map_bind]
  exact bind_congr fun x => (hfg x).symm

theorem bind_runOptions_plain (hm : m.runOptions = (Shape.maybe α).toOptions <$> m.run)
    {f : Maybe α → Run σ β} {g : Option α → Run σ β} (hfg : ∀ x, f x = g x.toOption) :
    m.runOptions >>= g = (Shape.plain β).toOptions <$> (m.run >>= f) :=
  bind_runOptions (r := .plain β) hm fun x => (map_toOptions_plain (f x)).trans (hfg x)

end Bind

/-- **A composition does on options what it does on maybes**, by induction on the composition: the
functions of an operation do the same, and so the operation does. -/
theorem runOptions_eq (c : Composition σ r) : c.runOptions = r.toOptions <$> c.run := by
  induction c with
  | code m => exact (map_toOptions_plain m).symm
  | andThen first next ihf ihn =>
    rw [runOptions, run, eq_run_of_plain ihf, map_bind]
    exact bind_congr ihn
  | of option => exact congrArg pure (toOption_ofOption option).symm
  | when condition supplier ih =>
    rw [runOptions, run, eq_run_of_plain ih]
    exact (toOption_when condition supplier.run).symm
  | whenNot condition supplier ih =>
    rw [runOptions, run, eq_run_of_plain ih]
    exact (toOption_whenNot condition supplier.run).symm
  | map m mapper ihm ihf =>
    rw [runOptions, funext fun a => eq_run_of_plain (ihf a)]
    exact bind_runOptions (r := .maybe _) ihm fun x => toOption_map x _
  | flatMap m mapper ihm ihf =>
    rw [runOptions, funext ihf]
    exact bind_runOptions (r := .maybe _) ihm fun x => toOption_flatMap x _
  | filter m predicate ihm ihp =>
    rw [runOptions, funext fun a => eq_run_of_plain (ihp a)]
    exact bind_runOptions (r := .maybe _) ihm fun x => toOption_filter x _
  | orElse m supplier ihm ihs =>
    rw [runOptions, ihs]
    exact bind_runOptions (r := .maybe _) ihm fun x => toOption_orElse x _
  | transform m ifAbsent ifPresent ihm iha ihp =>
    rw [runOptions, iha, funext ihp]
    exact bind_runOptions (r := .maybe _) ihm fun x => toOption_transform x _ _
  | fold m ifAbsent ifPresent ihm iha ihp =>
    rw [runOptions, eq_run_of_plain iha, funext fun a => eq_run_of_plain (ihp a)]
    exact bind_runOptions_plain ihm fun x => fold_eq x _ _
  | getOrElse m other ihm =>
    exact bind_runOptions_plain ihm fun x => congrArg pure (getOrElse_eq x other)
  | getOrElseGet m supplier ihm ihs =>
    rw [runOptions, eq_run_of_plain ihs]
    exact bind_runOptions_plain ihm fun x => getOrElseGet_eq x _
  | getOrElseThrow m error ihm ihe =>
    rw [runOptions, eq_run_of_plain ihe]
    exact bind_runOptions_plain ihm fun x => getOrElseThrow_eq x _
  | toSum m left ihm ihl =>
    rw [runOptions, eq_run_of_plain ihl]
    exact bind_runOptions_plain ihm fun x => toSum_eq x _
  | toList m ihm => exact bind_runOptions_plain ihm fun x => congrArg pure (toList_eq x)
  | toOption m ihm =>
    rw [runOptions, run, map_toOptions_plain, ihm, map_eq_pure_bind]
    rfl

/-! ## Nothing but plain code -/

section Row

variable {P : Closure σ → Prop}

/-- What goes on with a maybe is a row if it is one in both cases. -/
theorem row_bind {m : Run σ (Maybe α)} {f : Maybe α → Run σ β} (hm : Run.Row P m)
    (hpresent : ∀ a, Run.Row P (f (present a))) (habsent : Run.Row P (f absent)) :
    Run.Row P (m >>= f) := by
  refine hm.bind fun x => ?_
  cases x with
  | present a => exact hpresent a
  | absent => exact habsent

/-- **A composition is a row of runs of its plain code**, by induction on the composition: what an
operation does between the runs of its functions is pure. -/
theorem row_run {c : Composition σ r} (h : c.Each P) : Run.Row P c.run := by
  induction c with
  | code m => exact .code h
  | andThen first next ihf ihn => exact (ihf h.1).bind fun a => ihn a (h.2 a)
  | of option => exact .pure _
  | when condition supplier ih =>
    cases condition with
    | true => exact (ih h).map present
    | false => exact .pure _
  | whenNot condition supplier ih =>
    cases condition with
    | true => exact .pure _
    | false => exact (ih h).map present
  | map m mapper ihm ihf =>
    exact row_bind (ihm h.1) (fun a => (ihf a (h.2 a)).map present) (.pure _)
  | flatMap m mapper ihm ihf => exact row_bind (ihm h.1) (fun a => ihf a (h.2 a)) (.pure _)
  | filter m predicate ihm ihp =>
    refine row_bind (ihm h.1) (fun a => (ihp a (h.2 a)).bind fun holds => ?_) (.pure _)
    cases holds <;> exact .pure _
  | orElse m supplier ihm ihs => exact row_bind (ihm h.1) (fun a => .pure _) (ihs h.2)
  | transform m ifAbsent ifPresent ihm iha ihp =>
    exact row_bind (ihm h.1) (fun a => ihp a (h.2.2 a)) (iha h.2.1)
  | fold m ifAbsent ifPresent ihm iha ihp =>
    exact row_bind (ihm h.1) (fun a => ihp a (h.2.2 a)) (iha h.2.1)
  | getOrElse m other ihm => exact (ihm h).bind fun x => .pure _
  | getOrElseGet m supplier ihm ihs => exact row_bind (ihm h.1) (fun a => .pure _) (ihs h.2)
  | getOrElseThrow m error ihm ihe =>
    exact row_bind (ihm h.1) (fun a => .pure _) ((ihe h.2).map _)
  | toSum m left ihm ihl => exact row_bind (ihm h.1) (fun a => .pure _) ((ihl h.2).map _)
  | toList m ihm => exact (ihm h).bind fun x => .pure _
  | toOption m ihm => exact (ihm h).bind fun x => .pure _

end Row

/-! ## All of it -/

/-- **Maybes are options, and nothing is judged in a composition of them.**

* A maybe and an option stand for each other, also where the value is an option itself: being
  present with nothing inside is not being absent.
* A composition of operations ends as its counterpart on options does, in every session, and so
  with the same runs of the same plain code on the same values.
* It is a row of runs of its plain code: a cause or a panic that unwinds out of one of them ends it
  and is what unwinds out of it, in the session that the run left.
* What none of its plain code changes in a session, such as the events and the classifier, it does
  not change. -/
theorem simulates_options (c : Composition σ r) :
    ((∀ m : Maybe α, ofOption m.toOption = m) ∧ (∀ o : Option α, (ofOption o).toOption = o) ∧
      ofOption (some (none : Option α)) ≠ ofOption none ∧
      (present (none : Option α)).toOption ≠ (absent : Maybe (Option α)).toOption) ∧
    c.runOptions = r.toOptions <$> c.run ∧
    (∀ P : Closure σ → Prop, c.Each P → Run.Row P c.run) ∧
    ∀ {γ : Type} (view : Session σ → γ), c.Each (fun f => ∀ s, view (f.body s).2 = view s) →
      ∀ s, view (c.run s).2 = view s :=
  ⟨⟨ofOption_toOption, toOption_ofOption, nofun, nofun⟩, c.runOptions_eq, fun _ => row_run,
    fun _ h s => (row_run h s).keeps⟩

/-- A function that throws is mapped over a value with nothing inside. The supplier behind it is not
run, and the session is as it was. -/
theorem throws_past_supplier :
    let fault : Cause := { condition := { id := 0, kind := .fault, message := none } }
    let session : Session Unit := Session.start ()
    let c : Composition Unit (.maybe (Option Nat)) :=
      .orElse (.map (.of (some none : Option (Option Nat))) fun _ => .code (Run.throw fault))
        (.when true (.code (Run.panic "the supplier ran")))
    c.Each (fun f => ∀ s, (f.body s).2 = s) ∧ c.run session = (.thrown fault, session) ∧
      c.runOptions session = (.thrown fault, session) ∧ (c.run session).2 = session ∧
      Run.InRow (fun f => ∀ s, (f.body s).2 = s) session (c.run session).1 session := by
  intro fault session c
  obtain ⟨-, hoptions, hrow, hkeeps⟩ := simulates_options (α := Nat) c
  have hquiet : c.Each (fun f => ∀ s, (f.body s).2 = s) :=
    ⟨⟨trivial, fun _ _ => rfl⟩, fun _ => rfl⟩
  refine ⟨hquiet, rfl, ?_, hkeeps id hquiet session, hrow _ hquiet session⟩
  rw [hoptions]
  rfl

end Composition

end Maybe

end Fallible
