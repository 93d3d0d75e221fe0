import Fallible.Proofs.Judgement

/-!
# Functions and consumers in a row

Checked functions may be put in a row in many ways: from the front, from the back, in any brackets.
All of them run the functions in order and stop at the first cause. Mapping a success by one
function after the other does the same. There a cause is captured where it arises and the failure is
passed on by the functions that are left; in one function of them all it is handed on as it is and
captured at the end. It is captured once either way, in the same session, so the two are the same
run.

Consumers in a row stop at the first cause as well, and observing a success with them hands that
cause back as it is.

## Main definitions

* `Checked.Chain`: checked functions in a row, each with the types that it goes between
* `Checked.Composite`: the ways to make one function of them
* `Consumer.Composite`: the ways to make one consumer of several
* `Consumer.Ends`: consumers in order, up to the first that does not succeed

## Main results

* `Checked.Composite.run_eq`: brackets and direction do not matter
* `Attempt.bind_map`, `Checked.Chain.map_run`: mapping by each function is mapping by all of them
* `Consumer.Composite.run_eq_iff`: consumers in any brackets
* `Attempt.onSuccess_followedBy`, `Attempt.forEach_followedBy`: observing with each consumer
* `Checked.sequencing_fuses`: all of it
-/

namespace Fallible

variable {σ α β γ δ : Type}

/-! ## Functions -/

namespace Checked

theorem andThen_apply (f : Checked σ α β) (after : Checked σ β γ) (a : α) :
    f.andThen after a = f a >>= fun
      | .ok b => after b
      | .error c => pure (.error c) := rfl

theorem compose_eq_andThen (f : Checked σ β γ) (before : Checked σ α β) :
    f.compose before = before.andThen f := rfl

theorem andThen_assoc (f : Checked σ α β) (g : Checked σ β γ) (h : Checked σ γ δ) :
    (f.andThen g).andThen h = f.andThen (g.andThen h) := by
  funext a
  rw [andThen_apply, andThen_apply, andThen_apply, bind_assoc]
  refine bind_congr fun r => ?_
  cases r with
  | ok b => exact (andThen_apply g h b).symm
  | error c => rw [pure_bind]

/-- Checked functions in a row, each from the type where the one before it ends. -/
inductive Chain (σ : Type) : Type → Type → Type 1 where
  | single {α β : Type} (f : Checked σ α β) : Chain σ α β
  | cons {α β γ : Type} (f : Checked σ α β) (rest : Chain σ β γ) : Chain σ α γ

/-- One function of several, put together from the front or from the back. -/
inductive Composite (σ : Type) : Type → Type → Type 1 where
  | single {α β : Type} (f : Checked σ α β) : Composite σ α β
  | andThen {α β γ : Type} (first : Composite σ α β) (after : Composite σ β γ) : Composite σ α γ
  | compose {α β γ : Type} (last : Composite σ β γ) (before : Composite σ α β) : Composite σ α γ

namespace Chain

/-- The functions of one chain and then those of the other. -/
def append {α β γ : Type} : Chain σ α β → Chain σ β γ → Chain σ α γ
  | single f, later => cons f later
  | cons f rest, later => cons f (rest.append later)

/-- Runs the functions in order; stops at the first cause. -/
def run {α β : Type} : Chain σ α β → Checked σ α β
  | single f => f
  | cons f rest => fun a => do
    match ← f a with
    | .ok b => rest.run b
    | .error c => return .error c

/-- The functions put together from the back, the last one first. -/
def composed {α β : Type} : Chain σ α β → Composite σ α β
  | single f => .single f
  | cons f rest => .compose rest.composed (.single f)

/-- Maps an attempt by one function after the other. -/
def mapAll {α β : Type} : Chain σ α β → Attempt α → Run σ (Attempt β)
  | single f, t => t.map f
  | cons f rest, t => do rest.mapAll (← t.map f)

/-- Lifts the first function and maps by those after it. -/
def liftAll {α β : Type} : Chain σ α β → α → Run σ (Attempt β)
  | single f, a => f.lift a
  | cons f rest, a => do rest.mapAll (← f.lift a)

theorem run_cons (f : Checked σ α β) (rest : Chain σ β γ) :
    (cons f rest).run = f.andThen rest.run := rfl

theorem run_append (fs : Chain σ α β) (later : Chain σ β γ) :
    (fs.append later).run = fs.run.andThen later.run := by
  induction fs with
  | single f => rfl
  | cons f rest ih => rw [append, run_cons, run_cons, ih later, andThen_assoc]

end Chain

namespace Composite

/-- The function that is put together. -/
def run {α β : Type} : Composite σ α β → Checked σ α β
  | single f => f
  | andThen first after => first.run.andThen after.run
  | compose last before => last.run.compose before.run

/-- The functions inside, in the order in which they run. -/
def chain {α β : Type} : Composite σ α β → Chain σ α β
  | single f => .single f
  | andThen first after => first.chain.append after.chain
  | compose last before => before.chain.append last.chain

/-- **Brackets and direction do not matter**: a function put together in any way runs the functions
inside in order. -/
theorem run_eq (e : Composite σ α β) : e.run = e.chain.run := by
  induction e with
  | single f => rfl
  | andThen first after ih₁ ih₂ => rw [run, chain, Chain.run_append, ih₁, ih₂]
  | compose last before ih₁ ih₂ =>
    rw [run, chain, Chain.run_append, ih₁, ih₂, compose_eq_andThen]

end Composite

theorem Chain.chain_composed (fs : Chain σ α β) : fs.composed.chain = fs := by
  induction fs with
  | single f => rfl
  | cons f rest ih => rw [composed, Composite.chain, ih, Composite.chain, append]

end Checked

/-! ## Mapping -/

namespace Attempt

/-- **Mapping twice** is mapping once, by the one function after the other. -/
theorem bind_map (t : Attempt α) (f : Checked σ α β) (g : Checked σ β γ) :
    (t.map f >>= fun u => u.map g) = t.map (f.andThen g) := by
  cases t with
  | failure c => rfl
  | success a =>
    rw [map, map, of, of, Checked.andThen_apply, bind_assoc, bind_assoc]
    refine bind_congr fun r => ?_
    cases r with
    | ok b => rfl
    | error c =>
      -- judged before the second stage on the one side, and after it on the other
      exact fail_bind (f := fun u => u.map g) (fun _ => rfl) c

end Attempt

namespace Checked.Chain

/-- **Mapping by a chain** is mapping by each of its functions. -/
theorem map_run (fs : Chain σ α β) (t : Attempt α) : t.map fs.run = fs.mapAll t := by
  induction fs with
  | single f => rfl
  | cons f rest ih => rw [run_cons, ← Attempt.bind_map, mapAll, funext ih]

/-- Lifting is mapping the success of what the function is applied to. -/
theorem lift_run (fs : Chain σ α β) (a : α) : fs.run.lift a = fs.liftAll a := by
  cases fs with
  | single f => rfl
  | cons f rest => exact map_run (cons f rest) (.success a)

end Checked.Chain

/-! ## Consumers -/

namespace Consumer

/-- What consumers, run in order on one value, end in: the first that does not succeed is the last
that is run, and what it does is what happens. -/
inductive Ends (a : α) :
    List (Consumer σ α) → Session σ → Outcome (Except Cause Unit) → Session σ → Prop where
  | all (s : Session σ) : Ends a [] s (.returned (.ok ())) s
  | next {first : Consumer σ α} {rest : List (Consumer σ α)} {s s₁ s' : Session σ}
      {o : Outcome (Except Cause Unit)} (succeeds : first a s = (.returned (.ok ()), s₁))
      (later : Ends a rest s₁ o s') : Ends a (first :: rest) s o s'
  | stops {first : Consumer σ α} {rest : List (Consumer σ α)} {s s' : Session σ}
      {o : Outcome (Except Cause Unit)} (runs : first a s = (o, s'))
      (fails : o ≠ .returned (.ok ())) : Ends a (first :: rest) s o s'

/-- Runs consumers in order; stops at the first cause. -/
def inOrder (cs : List (Consumer σ α)) : Consumer σ α :=
  cs.foldr followedBy fun _ => return .ok ()

theorem followedBy_apply (first after : Consumer σ α) (a : α) :
    first.followedBy after a = first a >>= fun
      | .ok () => after a
      | .error c => pure (.error c) := rfl

theorem followedBy_of_ok {first : Consumer σ α} (after : Consumer σ α) {a : α} {s s₁ : Session σ}
    (h : first a s = (.returned (.ok ()), s₁)) : first.followedBy after a s = after a s₁ := by
  rw [followedBy_apply, Run.bind_apply, h]

theorem followedBy_of_ne_ok {first : Consumer σ α} (after : Consumer σ α) {a : α}
    {s s' : Session σ} {o : Outcome (Except Cause Unit)} (h : first a s = (o, s'))
    (ho : o ≠ .returned (.ok ())) : first.followedBy after a s = (o, s') := by
  rw [followedBy_apply, Run.bind_apply, h]
  cases o with
  | returned r =>
    cases r with
    | ok _ => exact absurd rfl ho
    | error c => rfl
  | thrown c => rfl
  | panicked text => rfl

theorem followedBy_assoc (c d e : Consumer σ α) :
    (c.followedBy d).followedBy e = c.followedBy (d.followedBy e) := by
  funext a
  rw [followedBy_apply, followedBy_apply, followedBy_apply, bind_assoc]
  refine bind_congr fun r => ?_
  cases r with
  | ok _ => exact (followedBy_apply d e a).symm
  | error _ => rw [pure_bind]

theorem inOrder_singleton (c : Consumer σ α) : inOrder [c] = c := by
  funext a
  show c.followedBy (fun _ => pure (.ok ())) a = c a
  rw [followedBy_apply]
  refine (bind_congr fun r => ?_).trans (bind_pure (c a))
  cases r <;> rfl

theorem inOrder_append (cs ds : List (Consumer σ α)) :
    inOrder (cs ++ ds) = (inOrder cs).followedBy (inOrder ds) := by
  induction cs with
  | nil => rfl
  | cons c cs ih =>
    show c.followedBy (inOrder (cs ++ ds)) = (c.followedBy (inOrder cs)).followedBy (inOrder ds)
    rw [ih, followedBy_assoc]

theorem Ends.inOrder_eq {a : α} {cs : List (Consumer σ α)} {s s' : Session σ}
    {o : Outcome (Except Cause Unit)} (h : Ends a cs s o s') : inOrder cs a s = (o, s') := by
  induction h with
  | all s => rfl
  | next succeeds _ ih => exact (followedBy_of_ok _ succeeds).trans ih
  | stops runs fails => exact followedBy_of_ne_ok _ runs fails

theorem ends_inOrder (a : α) (cs : List (Consumer σ α)) (s : Session σ) :
    Ends a cs s (inOrder cs a s).1 (inOrder cs a s).2 := by
  induction cs generalizing s with
  | nil => exact .all s
  | cons c cs ih =>
    rcases hc : c a s with ⟨o, s₁⟩
    by_cases ho : o = .returned (.ok ())
    · subst ho
      have hcs : inOrder (c :: cs) a s = inOrder cs a s₁ := followedBy_of_ok _ hc
      rw [hcs]
      exact .next hc (ih s₁)
    · have hcs : inOrder (c :: cs) a s = (o, s₁) := followedBy_of_ne_ok _ hc ho
      rw [hcs]
      exact .stops hc ho

theorem inOrder_eq_iff {a : α} {cs : List (Consumer σ α)} {s s' : Session σ}
    {o : Outcome (Except Cause Unit)} : inOrder cs a s = (o, s') ↔ Ends a cs s o s' := by
  refine ⟨fun h => ?_, Ends.inOrder_eq⟩
  have he := ends_inOrder a cs s
  rwa [h] at he

/-- One consumer of several. -/
inductive Composite (σ α : Type) where
  | single (c : Consumer σ α)
  | followedBy (first after : Composite σ α)

namespace Composite

/-- The consumer that is put together. -/
def run : Composite σ α → Consumer σ α
  | single c => c
  | followedBy first after => first.run.followedBy after.run

/-- The consumers inside, in the order in which they run. -/
def consumers : Composite σ α → List (Consumer σ α)
  | single c => [c]
  | followedBy first after => first.consumers ++ after.consumers

theorem run_eq (e : Composite σ α) : e.run = inOrder e.consumers := by
  induction e with
  | single c => exact (inOrder_singleton c).symm
  | followedBy first after ih₁ ih₂ => rw [run, consumers, inOrder_append, ih₁, ih₂]

/-- **Consumers in any brackets** run in order up to the first that does not succeed. -/
theorem run_eq_iff {e : Composite σ α} {a : α} {s s' : Session σ}
    {o : Outcome (Except Cause Unit)} : e.run a s = (o, s') ↔ Ends a e.consumers s o s' := by
  rw [run_eq, inOrder_eq_iff]

end Composite

end Consumer

/-! ## Observing -/

namespace Attempt

theorem forEach_followedBy (t : Attempt α) (c d : Consumer σ α) :
    t.forEach (c.followedBy d) = t.forEach c >>= fun
      | .ok () => t.forEach d
      | .error cause => pure (.error cause) := by
  cases t with
  | success a => exact Consumer.followedBy_apply c d a
  | failure e => rfl

/-- Observing a success is running the consumer on its value, and answering with the receiver
where that succeeds. -/
theorem onSuccess_eq_map_forEach (t : Attempt α) (c : Consumer σ α) :
    t.onSuccess c = (fun r => r.map fun () => t) <$> t.forEach c := by
  cases t with
  | success a => exact (map_eq_pure_bind _ _).symm
  | failure e => rfl

/-- **Observing with two consumers** is observing with the one and then, where it succeeded, with
the other. -/
theorem onSuccess_followedBy (t : Attempt α) (c d : Consumer σ α) :
    t.onSuccess (c.followedBy d) = t.onSuccess c >>= fun
      | .ok u => u.onSuccess d
      | .error cause => pure (.error cause) := by
  rw [onSuccess_eq_map_forEach, onSuccess_eq_map_forEach, forEach_followedBy, bind_map_left,
    map_bind]
  refine bind_congr fun r => ?_
  cases r with
  | ok _ => exact (onSuccess_eq_map_forEach t d).symm
  | error cause => rfl

/-- The cause that running a consumer ends in is the one that the consumer answered with. -/
theorem forEach_eq_error_iff {t : Attempt α} {e : Consumer.Composite σ α} {s s' : Session σ}
    {cause : Cause} :
    t.forEach e.run s = (.returned (.error cause), s') ↔
      ∃ a, t = success a ∧ Consumer.Ends a e.consumers s (.returned (.error cause)) s' := by
  cases t with
  | success a =>
    rw [forEach, Consumer.Composite.run_eq_iff]
    exact ⟨fun h => ⟨a, rfl, h⟩, fun ⟨_, ha, h⟩ => Attempt.success.inj ha ▸ h⟩
  | failure c =>
    refine ⟨fun h => ?_, fun ⟨_, ha, _⟩ => nomatch ha⟩
    cases h

theorem onSuccess_eq_error_iff {t : Attempt α} {c : Consumer σ α} {s s' : Session σ}
    {cause : Cause} :
    t.onSuccess c s = (.returned (.error cause), s') ↔
      t.forEach c s = (.returned (.error cause), s') := by
  rw [onSuccess_eq_map_forEach, map_eq_pure_bind, Run.bind_pure_eq_returned_iff]
  constructor
  · rintro ⟨r, hr, he⟩
    cases r with
    | ok _ => cases he
    | error d =>
      cases he
      exact hr
  · exact fun h => ⟨_, h, rfl⟩

end Attempt

/-! ## All of it -/

/-- **Functions and consumers in a row.**

* A function put together of checked functions in any brackets, from the front or from the back, is
  the same as those functions run in order, and so is the one put together strictly from the back.
  Mapping by it is mapping by one function after the other, whatever the receiver, and lifting it is
  lifting the first function and mapping by the others.
* Consumers in any brackets run in order up to the first that does not succeed.
* Observing with one consumer followed by another is observing with the one and, where it answers
  with no cause, with the other. The cause in which observing with any number of them ends is the
  one that the consumer which ran last answered with.

The equations are of runs: the same answer or the same unwinding, the same calls in the same order,
the same events and the same classifier in effect. -/
theorem Checked.sequencing_fuses :
    (∀ {α β : Type} (e : Composite σ α β), e.run = e.chain.run ∧
      (∀ t : Attempt α, t.map e.run = e.chain.mapAll t) ∧
      ∀ a, Checked.lift e.run a = e.chain.liftAll a) ∧
    (∀ {α β : Type} (fs : Chain σ α β), fs.composed.run = fs.run) ∧
    (∀ {α : Type} (e : Consumer.Composite σ α) (a : α) (s s' : Session σ)
      (o : Outcome (Except Cause Unit)),
      e.run a s = (o, s') ↔ Consumer.Ends a e.consumers s o s') ∧
    ∀ {α : Type} (t : Attempt α),
      (∀ c d : Consumer σ α, t.onSuccess (c.followedBy d) = do
        match ← t.onSuccess c with
        | .ok u => u.onSuccess d
        | .error cause => return .error cause) ∧
      (∀ c d : Consumer σ α, t.forEach (c.followedBy d) = do
        match ← t.forEach c with
        | .ok () => t.forEach d
        | .error cause => return .error cause) ∧
      ∀ (e : Consumer.Composite σ α) (s s' : Session σ) (cause : Cause),
        (t.onSuccess e.run s = (.returned (.error cause), s') ↔
          t.forEach e.run s = (.returned (.error cause), s')) ∧
        (t.forEach e.run s = (.returned (.error cause), s') ↔
          ∃ a, t = .success a ∧ Consumer.Ends a e.consumers s (.returned (.error cause)) s') := by
  refine ⟨fun e => ⟨e.run_eq, fun t => ?_, fun a => ?_⟩, fun fs => ?_,
    fun e a s s' o => Consumer.Composite.run_eq_iff,
    fun t => ⟨t.onSuccess_followedBy, t.forEach_followedBy, fun e s s' cause =>
      ⟨Attempt.onSuccess_eq_error_iff, Attempt.forEach_eq_error_iff⟩⟩⟩
  · rw [e.run_eq, Chain.map_run]
  · rw [e.run_eq, Chain.lift_run]
  · rw [Composite.run_eq, Chain.chain_composed]

end Fallible
