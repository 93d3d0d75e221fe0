import Fallible.Proofs.History.Basic
import Fallible.Proofs.Pipeline.Basic
import Fallible.Proofs.Unwinding.Site

/-!
# Passing pipelines untouched

Some stages have nothing to do for a failure, and others have nothing to do for a success. A
pipeline of such stages, however long and in whatever order, comes to what it was called on, and
nothing else happens: no function is run, whatever it would do, no cause is judged, nothing is
reported, and nothing unwinds.

Recovering has nothing to do for a failure whose cause is not of the kind that it asks for, that is,
where that kind is not in the lineage of the kind of the cause.

## Main definitions

* `Stage.ForSuccesses`, `Stage.ForFailures`: the stages that let failures and successes pass
* `Pipeline.ForSuccesses`, `Pipeline.ForFailures`: pipelines of just such stages
* `Pipeline.trapped`: a pipeline in which no function can be run without being noticed
* `Pipeline.Untouched`: nothing happens in a pipeline

## Main results

* `Pipeline.passes_untouched`: failures and successes pass such pipelines untouched
-/

namespace Fallible

variable {σ : Type}

/-! ## Stages with nothing to do -/

namespace Stage

/-- The stages that have nothing to do for a failure with this cause. -/
inductive ForSuccesses (c : Cause) : {α β : Type} → Stage σ α β → Prop where
  | handle : ForSuccesses c (.handle : Stage σ α α)
  | map (f : Checked σ α β) : ForSuccesses c (.map f)
  | flatMap (f : Checked σ α (Attempt β)) : ForSuccesses c (.flatMap f)
  | filter (shown : Shown α) (p : Predicate σ α) : ForSuccesses c (.filter shown p)
  | filterOr (p : Predicate σ α) (error : α → Run σ Cause) : ForSuccesses c (.filterOr p error)
  | onSuccess (consumer : Consumer σ α) : ForSuccesses c (.onSuccess consumer)
  | recover {kind : Kind} (hk : kind ∉ c.kind.lineage) (f : Checked σ Cause α) :
      ForSuccesses c (.recover kind f)
  | recoverWith {kind : Kind} (hk : kind ∉ c.kind.lineage) (f : Checked σ Cause (Attempt α)) :
      ForSuccesses c (.recoverWith kind f)

/-- The stages that have nothing to do for a success. -/
inductive ForFailures : {α : Type} → Stage σ α α → Prop where
  | handle : ForFailures (.handle : Stage σ α α)
  | recover (kind : Kind) (f : Checked σ Cause α) : ForFailures (.recover kind f)
  | recoverWith (kind : Kind) (f : Checked σ Cause (Attempt α)) : ForFailures (.recoverWith kind f)
  | orElse (supplier : Run σ (Except Cause (Attempt α))) : ForFailures (.orElse supplier)
  | mapFailure (f : Checked σ Cause Cause) : ForFailures (.mapFailure f : Stage σ α α)
  | onFailure (consumer : Consumer σ Cause) : ForFailures (.onFailure consumer : Stage σ α α)

/-- The stage with a panic in place of every function. -/
def trapped (text : String) : Stage σ α β → Stage σ α β
  | handle => handle
  | map _ => map fun _ => Run.panic text
  | flatMap _ => flatMap fun _ => Run.panic text
  | filter shown _ => filter shown fun _ => Run.panic text
  | filterOr _ _ => filterOr (fun _ => Run.panic text) fun _ => Run.panic text
  | mapFailure _ => mapFailure fun _ => Run.panic text
  | recover kind _ => recover kind fun _ => Run.panic text
  | recoverWith kind _ => recoverWith kind fun _ => Run.panic text
  | orElse _ => orElse (Run.panic text)
  | transform _ _ => transform (fun _ => Run.panic text) fun _ => Run.panic text
  | failed => failed
  | onSuccess _ => onSuccess fun _ => Run.panic text
  | onFailure _ => onFailure fun _ => Run.panic text

section Passing

variable {α β : Type}

theorem not_isA_of_not_mem_lineage {c : Cause} {kind : Kind} (h : kind ∉ c.kind.lineage) :
    c.isA kind = false :=
  Bool.eq_false_iff.mpr fun hk => h (Kind.mem_lineage_iff.mpr hk)

/-- **A failure passes** a stage that has nothing to do for it. -/
theorem ForSuccesses.run_eq {stage : Stage σ α β} {c : Captured} (h : stage.ForSuccesses c.cause) :
    stage.run (.failure c) = pure (.ok (.failure c)) := by
  cases h with
  | handle | map | flatMap | filter | filterOr | onSuccess => rfl
  | recover hk f =>
    rw [run, Attempt.recover_of_not_isA (not_isA_of_not_mem_lineage hk), map_pure]
  | recoverWith hk f =>
    rw [run, Attempt.recoverWith_of_not_isA (not_isA_of_not_mem_lineage hk), map_pure]

theorem ForSuccesses.trapped {stage : Stage σ α β} {c : Cause} (h : stage.ForSuccesses c)
    (text : String) : (stage.trapped text).ForSuccesses c := by
  cases h <;> constructor <;> assumption

/-- **A success passes** a stage that has nothing to do for it. -/
theorem ForFailures.run_eq {stage : Stage σ α α} (h : stage.ForFailures) (a : α) :
    stage.run (.success a) = pure (.ok (.success a)) := by
  cases h <;> rfl

theorem ForFailures.trapped {stage : Stage σ α α} (h : stage.ForFailures) (text : String) :
    (stage.trapped text).ForFailures := by
  cases h <;> constructor

end Passing

end Stage

/-! ## Pipelines with nothing to do -/

namespace Pipeline

/-- The pipelines of stages that have nothing to do for a failure with this cause. -/
inductive ForSuccesses (c : Cause) : {α β : Type} → Pipeline σ α β → Prop where
  | done : ForSuccesses c (.done : Pipeline σ α α)
  | andThen {first : Stage σ α β} {rest : Pipeline σ β γ} (hfirst : first.ForSuccesses c)
      (hrest : ForSuccesses c rest) : ForSuccesses c (.andThen first rest)

/-- The pipelines of stages that have nothing to do for a success. -/
inductive ForFailures : {α : Type} → Pipeline σ α α → Prop where
  | done : ForFailures (.done : Pipeline σ α α)
  | andThen {first : Stage σ α α} {rest : Pipeline σ α α} (hfirst : first.ForFailures)
      (hrest : ForFailures rest) : ForFailures (.andThen first rest)

/-- The pipeline with a panic in place of every function. -/
def trapped (text : String) : {α β : Type} → Pipeline σ α β → Pipeline σ α β
  | _, _, done => done
  | _, _, andThen first rest => andThen (first.trapped text) (rest.trapped text)

/-- Nothing happens in a pipeline that is called on `t` and comes to `u`. -/
structure Untouched {α β : Type} (p : Pipeline σ α β) (t : Attempt α) (u : Attempt β) : Prop where
  /-- It returns, and the session is left as it was: there is no event, and no classifier comes
  into effect. -/
  run_apply : ∀ s, p.run t s = (.returned (.ok u), s)
  /-- It asks for no judgement, also where there is a classifier in effect already. -/
  takes : ∀ s, (p.run t).Takes s []
  /-- It runs none of its functions: with a panic in their place it does just the same. -/
  trapped : ∀ text, (p.trapped text).run t = p.run t

section Passing

variable {α β : Type}

/-- A stage that passes on what it is called on leaves the work to the others. -/
theorem run_andThen_of_run_eq {γ : Type} {first : Stage σ α β} {t : Attempt α} {u : Attempt β}
    (h : first.run t = pure (.ok u)) (rest : Pipeline σ β γ) :
    (andThen first rest).run t = rest.run u := by
  rw [run, h, pure_bind]

/-- By induction on the pipeline: every stage passes the failure on to the next. -/
theorem ForSuccesses.run_eq {p : Pipeline σ α β} {c : Captured} (h : p.ForSuccesses c.cause) :
    p.run (.failure c) = pure (.ok (.failure c)) := by
  induction h with
  | done => rfl
  | andThen hfirst hrest ih => rw [run_andThen_of_run_eq hfirst.run_eq, ih]

theorem ForSuccesses.trapped {p : Pipeline σ α β} {c : Cause} (h : p.ForSuccesses c)
    (text : String) : (p.trapped text).ForSuccesses c := by
  induction h with
  | done => exact .done
  | andThen hfirst hrest ih => exact .andThen (hfirst.trapped text) ih

theorem ForFailures.run_eq {p : Pipeline σ α α} (h : p.ForFailures) (a : α) :
    p.run (.success a) = pure (.ok (.success a)) := by
  induction h with
  | done => rfl
  | andThen hfirst hrest ih => rw [run_andThen_of_run_eq (hfirst.run_eq a), ih]

theorem ForFailures.trapped {p : Pipeline σ α α} (h : p.ForFailures) (text : String) :
    (p.trapped text).ForFailures := by
  induction h with
  | done => exact .done
  | andThen hfirst hrest ih => exact .andThen (hfirst.trapped text) ih

theorem Untouched.of_run_eq {p : Pipeline σ α β} {t : Attempt α} {u : Attempt β}
    (h : p.run t = pure (.ok u)) (ht : ∀ text, (p.trapped text).run t = pure (.ok u)) :
    p.Untouched t u where
  run_apply s := by rw [h, Run.pure_apply]
  takes s := by
    rw [h]
    exact .pure _ s
  trapped text := by rw [ht, h]

end Passing

/-- **Failures and successes pass untouched** through every pipeline whose stages have nothing to do
for them, whatever its functions would do. The failure still has the very cause that it had, and
equals the one before. -/
theorem passes_untouched :
    (∀ (α β : Type) (c : Captured) (p : Pipeline σ α β), p.ForSuccesses c.cause →
      p.Untouched (.failure c) (.failure c) ∧ (c == c) = true) ∧
    ∀ (α : Type) (a : α) (p : Pipeline σ α α), p.ForFailures →
      p.Untouched (.success a) (.success a) := by
  refine ⟨fun α β c p h => ⟨?_, ?_⟩, fun α a p h => ?_⟩
  · exact .of_run_eq h.run_eq fun text => (h.trapped text).run_eq
  · -- causes are compared by their identity
    exact beq_self_eq_true c.cause.id
  · exact .of_run_eq (h.run_eq a) fun text => (h.trapped text).run_eq a

/-- A failure of input passes stages that would panic, unwind or raise a fault, and so does a
success on its way through others. -/
theorem io_passes_untouched :
    let c : Captured := ⟨{ condition := ⟨0, .io, none⟩ }⟩
    let fault : Cause := { condition := ⟨1, .linkage, none⟩ }
    let values : Pipeline Unit Nat String :=
      .andThen (.filterOr (fun _ => return .ok false) fun _ => return fault) <|
      .andThen (.recoverWith .unsupported fun _ => Run.panic "recovered") <|
      .andThen (.map fun _ => fault.rethrow) <|
      .andThen (.onSuccess fun _ => return .error fault) .done
    let causes : Pipeline Unit Nat Nat :=
      .andThen (.mapFailure fun _ => return .ok fault) <|
      .andThen (.recover .any fun _ => Run.panic "recovered") <|
      .andThen (.orElse fault.rethrow) .done
    let s : Session Unit := Session.start ()
    values.run (.failure c) s = (.returned (.ok (.failure c)), s) ∧
      causes.run (.success 3) s = (.returned (.ok (.success 3)), s) := by
  intro c fault values causes s
  have hk : Kind.unsupported ∉ Kind.io.lineage := by
    simp [Kind.lineage_eq, Kind.parent]
  obtain ⟨failures, successes⟩ := passes_untouched (σ := Unit)
  refine ⟨(failures _ _ c values ?_).1.run_apply s, (successes _ 3 causes ?_).run_apply s⟩
  · exact .andThen (.filterOr _ _) (.andThen (.recoverWith hk _)
      (.andThen (.map _) (.andThen (.onSuccess _) .done)))
  · exact .andThen (.mapFailure _) (.andThen (.recover _ _) (.andThen (.orElse _) .done))

end Pipeline

end Fallible
