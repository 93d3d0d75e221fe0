import Fallible.Proofs.Descent
import Fallible.Proofs.Unwinding.Site

/-!
# Recovering with one handler after the other

A handler has a kind and a recovery, and recovers from the causes of that kind. Of handlers in a
chain the first that is for the cause of a failure does its recovery; those before it let the
failure pass, and those after it let the success pass that the recovery comes to.

Which handler that is does not depend on the order of handlers for kinds that have nothing in
common: the ancestors of a kind stand in a row, so no cause is of two kinds neither of which
descends from the other. A handler right after one for an ancestor of its kind has work only where
the recovery before it answered with a cause itself.

## Main definitions

* `Handler`, `Handler.handles`: handlers, and the causes that they are for
* `Handler.Avoids`: a recovery that answers with no cause of a kind
* `Attempt.recoverAll`: recovering with one handler after the other

## Main results

* `Attempt.recoverAll_of_find?_eq_some`: the first handler that is for the cause does its recovery
* `Attempt.recover_comm`: handlers for kinds that have nothing in common
* `Attempt.recover_shadowed`: a handler right after one for an ancestor of its kind
* `Attempt.recovery_dispatch`: all of it on whole chains
-/

namespace Fallible

variable {σ α : Type}

/-- A kind to recover from, and how that is done. -/
structure Handler (σ α : Type) where
  kind : Kind
  recovery : Checked σ Cause α

namespace Handler

/-- Whether a handler is for a cause. -/
def handles (h : Handler σ α) (c : Cause) : Bool :=
  c.isA h.kind

/-- No cause that the recovery answers with is of `kind`. It may answer with other causes, throw
any and panic. -/
def Avoids (h : Handler σ α) (kind : Kind) : Prop :=
  ∀ c s d s', h.handles c = true → h.recovery c s = (.returned (.error d), s') →
    d.isA kind = false

end Handler

namespace Attempt

/-- Recovers with one handler after the other. -/
def recoverAll (t : Attempt α) (hs : List (Handler σ α)) : Run σ (Attempt α) :=
  hs.foldlM (fun t h => t.recover h.kind h.recovery) t

/-! ## Dispatch -/

section Dispatch

variable {c : Captured} {h : Handler σ α} {hs : List (Handler σ α)}

theorem recoverAll_cons (t : Attempt α) (h : Handler σ α) (hs : List (Handler σ α)) :
    t.recoverAll (h :: hs) = t.recover h.kind h.recovery >>= fun u => u.recoverAll hs :=
  List.foldlM_cons

theorem recoverAll_cons_cons (t : Attempt α) (h h' : Handler σ α) (hs : List (Handler σ α)) :
    t.recoverAll (h :: h' :: hs) =
      (t.recover h.kind h.recovery >>= fun u => u.recover h'.kind h'.recovery) >>= fun u =>
        u.recoverAll hs := by
  rw [recoverAll_cons, bind_assoc]
  exact bind_congr fun u => recoverAll_cons u h' hs

theorem recoverAll_append (t : Attempt α) (hs later : List (Handler σ α)) :
    t.recoverAll (hs ++ later) = t.recoverAll hs >>= fun u => u.recoverAll later :=
  List.foldlM_append

/-- No handler has anything to do for a success. -/
theorem recoverAll_success (a : α) (hs : List (Handler σ α)) :
    (success a).recoverAll hs = pure (success a) := by
  induction hs with
  | nil => rfl
  | cons h hs ih => rw [recoverAll_cons, recover, pure_bind, ih]

/-- Handlers that are not for the cause let the failure pass. -/
theorem recoverAll_of_forall_not_handles (hc : ∀ h ∈ hs, h.handles c.cause = false) :
    (failure c).recoverAll hs = pure (failure c) := by
  induction hs with
  | nil => rfl
  | cons h hs ih =>
    obtain ⟨hh, hhs⟩ := List.forall_mem_cons.mp hc
    rw [recoverAll_cons, recover_of_not_isA hh, pure_bind, ih hhs]

/-- The answer of the first handler that is for the cause goes through the handlers after it. -/
theorem recoverAll_of_first {before after : List (Handler σ α)}
    (hb : ∀ h ∈ before, h.handles c.cause = false) (hh : h.handles c.cause = true) :
    (failure c).recoverAll (before ++ h :: after) =
      of (h.recovery c.cause) >>= fun u => u.recoverAll after := by
  rw [recoverAll_append, recoverAll_of_forall_not_handles hb, pure_bind, recoverAll_cons,
    recover_of_isA hh]

/-- **The first handler that is for the cause** does its recovery, and where that answers with a
value the chain comes to the success of it, in the session that the recovery left. Nothing is asked
of the other handlers. -/
theorem recoverAll_of_find?_eq_some {s s' : Session σ} {a : α}
    (hf : hs.find? (·.handles c.cause) = some h)
    (ha : h.recovery c.cause s = (.returned (.ok a), s')) :
    (failure c).recoverAll hs s = (.returned (success a), s') := by
  obtain ⟨hh, before, after, rfl, hb⟩ := List.find?_eq_some_iff_append.mp hf
  have hb' : ∀ h ∈ before, h.handles c.cause = false := fun h hm => by simpa using hb h hm
  have hof : of (h.recovery c.cause) s = (.returned (success a), s') :=
    Run.bind_of_returned ofExcept ha
  rw [recoverAll_of_first hb' hh, Run.bind_of_returned _ hof, recoverAll_success]
  rfl

theorem recoverAll_of_find?_eq_none (hf : hs.find? (·.handles c.cause) = none) :
    (failure c).recoverAll hs = pure (failure c) :=
  recoverAll_of_forall_not_handles fun h hm => by simpa using List.find?_eq_none.mp hf h hm

end Dispatch

/-! ## Two handlers in a row -/

section Neighbours

/-- A computation comes to a failure where it answered with the cause, which is non-fatal. -/
theorem error_of_of_failure {m : Run σ (Except Cause α)} {s s' : Session σ} {c : Captured}
    (h : of m s = (.returned (failure c), s')) :
    ∃ t, m s = (.returned (.error c.cause), t) ∧ t.inEffect.isFatal c.cause = false := by
  obtain ⟨r, t, hm, hr⟩ := Run.bind_eq_returned_iff.mp h
  cases r with
  | ok a => cases hr
  | error d =>
    obtain ⟨hd, hf⟩ := eq_failure_of_fail hr
    cases hd
    exact ⟨t, hm, hf⟩

/-- **A second handler has something to do** for a cause that the first one is for only if the
recovery of the first answered with a non-fatal cause that the second is for. -/
theorem recover_again {c : Captured} {k : Kind} (hc : c.cause.isA k = true) (k' : Kind)
    (f : Checked σ Cause α) (s : Session σ) :
    (∀ g, ((failure c).recover k f >>= fun u => u.recover k' g) s = (failure c).recover k f s) ∨
    ∃ d s', f c.cause s = (.returned (.error d), s') ∧ s'.inEffect.isFatal d = false ∧
      d.isA k' = true := by
  by_cases hd : ∃ d s', f c.cause s = (.returned (.error d), s') ∧
      s'.inEffect.isFatal d = false ∧ d.isA k' = true
  · exact .inr hd
  refine .inl fun g => Run.bind_apply_of_forall_passes fun u s' hu => ?_
  cases u with
  | success a => rfl
  | failure e =>
    rw [recover_of_isA hc] at hu
    obtain ⟨s₁, hf, hn⟩ := error_of_of_failure hu
    have he : e.cause.isA k' = false := Bool.eq_false_iff.mpr fun he => hd ⟨_, s₁, hf, hn, he⟩
    rw [recover_of_not_isA he]
    rfl

/-- A handler after one that is for the cause does nothing if the first avoids its kind. -/
theorem recover_bind_of_avoids {c : Captured} {h h' : Handler σ α}
    (hc : h.handles c.cause = true) (ha : h.Avoids h'.kind) :
    ((failure c).recover h.kind h.recovery >>= fun u => u.recover h'.kind h'.recovery) =
      (failure c).recover h.kind h.recovery := by
  refine Run.ext fun s => ?_
  obtain hp | ⟨d, s', hf, -, hd⟩ := recover_again hc h'.kind h.recovery s
  · exact hp h'.recovery
  · rw [ha _ s d s' hc hf] at hd
    cases hd

/-- **Handlers for kinds that have nothing in common** may be swapped. -/
theorem recover_comm {h h' : Handler σ α} (hk : h.kind.isA h'.kind = false)
    (hk' : h'.kind.isA h.kind = false) (ha : h.Avoids h'.kind) (ha' : h'.Avoids h.kind)
    (t : Attempt α) :
    (t.recover h.kind h.recovery >>= fun u => u.recover h'.kind h'.recovery) =
      t.recover h'.kind h'.recovery >>= fun u => u.recover h.kind h.recovery := by
  cases t with
  | success a => rfl
  | failure c =>
    cases hc : h.handles c.cause <;> cases hc' : h'.handles c.cause
    · rw [recover_of_not_isA hc, recover_of_not_isA hc', pure_bind, pure_bind,
        recover_of_not_isA hc, recover_of_not_isA hc']
    · rw [recover_bind_of_avoids hc' ha', recover_of_not_isA hc, pure_bind]
    · rw [recover_bind_of_avoids hc ha, recover_of_not_isA hc', pure_bind]
    · -- the cause would be of both kinds, so one would descend from the other
      obtain hd | hd := Kind.isA_or_isA hc hc'
      · exact absurd hd (Bool.eq_false_iff.mp hk)
      · exact absurd hd (Bool.eq_false_iff.mp hk')

/-- **A handler right after one for an ancestor of its kind** does nothing, whatever its recovery,
unless the recovery before it was run and answered with a non-fatal cause of its kind. -/
theorem recover_shadowed {k k' : Kind} (hk : k'.isA k = true) (t : Attempt α)
    (f : Checked σ Cause α) (s : Session σ) :
    (∀ g, (t.recover k f >>= fun u => u.recover k' g) s = t.recover k f s) ∨
    ∃ c d s', t = failure c ∧ c.cause.isA k = true ∧ f c.cause s = (.returned (.error d), s') ∧
      s'.inEffect.isFatal d = false ∧ d.isA k' = true := by
  cases t with
  | success a => exact .inl fun g => rfl
  | failure c =>
    cases hc : c.cause.isA k with
    | true =>
      obtain hp | ⟨d, s', hf, hn, hd⟩ := recover_again hc k' f s
      · exact .inl hp
      · exact .inr ⟨c, d, s', rfl, hc, hf, hn, hd⟩
    | false =>
      -- a cause that is not of the ancestor is not of the descendant
      have hc' : c.cause.isA k' = false :=
        Bool.eq_false_iff.mpr fun h => Bool.eq_false_iff.mp hc (Kind.isA_trans h hk)
      refine .inl fun g => ?_
      rw [recover_of_not_isA hc, pure_bind, recover_of_not_isA hc']

end Neighbours

/-! ## Chains of handlers -/

/-- **How a chain of handlers dispatches.**

* For a failure whose cause no handler is for, the chain does nothing and comes to that failure.
  Else the first handler that is for the cause does its recovery, on that very cause, and where this
  answers with a value the chain comes to the success of it, in the session that the recovery left.
  Nothing is asked of the other recoveries: they may be any, and so they are not run.
* Neighbours in a chain may be swapped if neither kind descends from the other and neither recovery
  answers with a cause of the other kind. They may unwind. The two chains are the same run.
* A handler whose kind descends from that of the one right before it may have any recovery at all,
  as if it was not there, unless the failure that came to the two was one for the handler before,
  whose recovery answered with a non-fatal cause that the later one is for. -/
theorem recovery_dispatch :
    (∀ (c : Captured) (hs : List (Handler σ α)),
      (hs.find? (·.handles c.cause) = none → (failure c).recoverAll hs = pure (failure c)) ∧
      ∀ h, hs.find? (·.handles c.cause) = some h → ∀ s a s',
        h.recovery c.cause s = (.returned (.ok a), s') →
          (failure c).recoverAll hs s = (.returned (success a), s')) ∧
    (∀ (t : Attempt α) (before after : List (Handler σ α)) (h h' : Handler σ α),
      h.kind.isA h'.kind = false → h'.kind.isA h.kind = false →
      h.Avoids h'.kind → h'.Avoids h.kind →
        t.recoverAll (before ++ h :: h' :: after) = t.recoverAll (before ++ h' :: h :: after)) ∧
    ∀ (t : Attempt α) (before after : List (Handler σ α)) (h : Handler σ α) (kind : Kind)
      (s : Session σ), kind.isA h.kind = true →
        (∀ recovery, t.recoverAll (before ++ h :: ⟨kind, recovery⟩ :: after) s =
          t.recoverAll (before ++ h :: after) s) ∨
        ∃ c s₁ d s₂, t.recoverAll before s = (.returned (failure c), s₁) ∧
          h.handles c.cause = true ∧ h.recovery c.cause s₁ = (.returned (.error d), s₂) ∧
          s₂.inEffect.isFatal d = false ∧ d.isA kind = true := by
  refine ⟨?_, ?_, ?_⟩
  · intro c hs
    exact ⟨recoverAll_of_find?_eq_none, fun h hf s a s' => recoverAll_of_find?_eq_some hf⟩
  · intro t before after h h' hk hk' ha ha'
    rw [recoverAll_append, recoverAll_append]
    refine bind_congr fun u => ?_
    rw [recoverAll_cons_cons, recover_comm hk hk' ha ha', ← recoverAll_cons_cons]
  · intro t before after h kind s hk
    rcases hb : t.recoverAll before s with ⟨u | c | text, s₁⟩
    · have hs (hs : List (Handler σ α)) : t.recoverAll (before ++ hs) s = u.recoverAll hs s₁ := by
        rw [recoverAll_append, Run.bind_of_returned _ hb]
      obtain hp | ⟨c, d, s₂, rfl, hc, hf, hn, hd⟩ := recover_shadowed hk u h.recovery s₁
      · refine .inl fun recovery => ?_
        rw [hs, hs, recoverAll_cons_cons, recoverAll_cons, Run.bind_apply, hp recovery,
          Run.bind_apply]
      · exact .inr ⟨c, s₁, d, s₂, rfl, hc, hf, hn, hd⟩
    -- what unwinds out of the handlers before passes by both
    all_goals
      refine .inl fun recovery => ?_
      rw [recoverAll_append, recoverAll_append, Run.bind_apply, Run.bind_apply, hb]

/-- A failure of input among handlers that would panic: only the one for its kind is run, before or
after the one for missing elements. -/
theorem io_dispatch :
    let c : Captured := ⟨{ condition := ⟨0, .io, none⟩ }⟩
    let reads : Handler Unit Nat := ⟨.io, fun _ => return .ok 3⟩
    let trap (kind : Kind) : Handler Unit Nat := ⟨kind, fun _ => Run.panic "recovered"⟩
    let s : Session Unit := Session.start ()
    (failure c).recoverAll [trap .noSuchElement, reads, trap .exception] s =
        (.returned (success 3), s) ∧
      (failure c).recoverAll [reads, trap .noSuchElement, trap .exception] s =
        (.returned (success 3), s) ∧
      (failure c).recoverAll [trap .noSuchElement] = pure (failure c) ∧
      (failure c).recoverAll [reads, trap .io] s = (failure c).recoverAll [reads] s := by
  intro c reads trap s
  obtain ⟨dispatch, swap, shadowed⟩ := recovery_dispatch (σ := Unit) (α := Nat)
  have hio : reads.handles c.cause = true := Kind.isA_self .io
  have hmissing : Kind.io.isA .noSuchElement = false :=
    Bool.eq_false_iff.mpr (mt Kind.mem_lineage_iff.mpr (by simp [Kind.lineage_eq, Kind.parent]))
  have hskips : (trap .noSuchElement).handles c.cause = false := hmissing
  have hio' : Kind.noSuchElement.isA .io = false :=
    Bool.eq_false_iff.mpr (mt Kind.mem_lineage_iff.mpr (by simp [Kind.lineage_eq, Kind.parent]))
  have hfirst : (failure c).recoverAll [trap .noSuchElement, reads, trap .exception] s =
      (.returned (success 3), s) := by
    refine (dispatch c _).2 reads ?_ s 3 s rfl
    simp only [List.find?_cons, hskips, hio]
  refine ⟨hfirst, ?_, ?_, ?_⟩
  · rw [← hfirst]
    refine congrFun (swap (failure c) [] [trap .exception] reads (trap .noSuchElement) hmissing hio'
      ?_ ?_) s
    · intro _ _ _ _ _ h
      cases h
    · intro _ _ _ _ _ h
      cases h
  · refine (dispatch c _).1 ?_
    simp only [List.find?_cons, hskips, List.find?_nil]
  · obtain hp | ⟨_, _, d, s₂, hb, _, hr, _⟩ := shadowed (failure c) [] [] reads .io s hio
    · exact hp _
    · cases hb
      cases hr

end Attempt

end Fallible
