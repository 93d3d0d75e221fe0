import Fallible.Proofs.Unwinding.Capturing

/-!
# Unwinding through nested combinators

A context is code with a hole: combinators whose functions run further combinators, and so on to the
hole, with code that comes before and stages that are still to come at every level. No stop of an
unwinding stands between the hole and the outside.

Whatever unwinds in the hole leaves the whole context as it is, however deep it is, and nothing of
the context is run after it: the session is left as the hole left it. That the functions of the
context are arbitrary says so, since each may write down in the caller's state that it was run.

## Main definitions

* `Context`, `Context.plug`: contexts, and putting code into the hole
* `Context.enter`: the session that the hole is run in

## Main results

* `Context.plug_of_unwinds`: an unwinding leaves the context as it is
* `Context.plug_of_not_entered`: what stands in a hole that is not reached does not matter
* `Context.fatal_escapes`: fatal causes, thrown causes and panics in the hole
-/

namespace Fallible

/-- Code that answers with an `α`, with a hole for code that answers with an `η`. -/
inductive Context (σ η : Type) : Type → Type 1 where
  | hole : Context σ η η
  /-- A combinator whose function has the hole in it. -/
  | within (site : Site σ ι β α) (inner : ι → Context σ η β) : Context σ η α
  /-- Other code comes first. -/
  | after (m : Run σ γ) (inner : γ → Context σ η α) : Context σ η α
  /-- Other stages come next, with the answer as their receiver or for whatever else. -/
  | pending (inner : Context σ η β) (next : β → Run σ α) : Context σ η α

namespace Context

variable {σ η α : Type}

/-- The code with `m` in the hole. -/
def plug (m : Run σ η) : {α : Type} → Context σ η α → Run σ α
  | _, hole => m
  | _, within site inner => site.apply fun i => plug m (inner i)
  | _, after first inner => first >>= fun a => plug m (inner a)
  | _, pending inner next => plug m inner >>= next

/-- The session that the hole is run in, if it is reached. -/
def enter : {α : Type} → Context σ η α → Session σ → Option (Session σ)
  | _, hole, s => some s
  | _, within site inner, s =>
    match site.entry s with
    | some (i, s) => enter (inner i) s
    | none => none
  | _, after first inner, s =>
    match first s with
    | (.returned a, s) => enter (inner a) s
    | _ => none
  | _, pending inner _, s => enter inner s

/-- **An unwinding leaves the context as it is**, in the session that the hole left. By induction on
the context: one step for each level that is left. -/
theorem plug_of_unwinds (C : Context σ η α) {m : Run σ η} {p : Payload} {s s₁ s₂ : Session σ}
    (hs : C.enter s = some s₁) (hm : m s₁ = (p.outcome, s₂)) :
    C.plug m s = (p.outcome, s₂) := by
  induction C generalizing s with
  | hole =>
    cases hs
    exact hm
  | within site inner ih =>
    rw [enter] at hs
    split at hs
    · rename_i i s' he
      -- it unwinds out of the function (induction), and so out of the combinator
      exact site.apply_of_unwinds _ he (ih i hs)
    · cases hs
  | after first inner ih =>
    rw [enter] at hs
    split at hs
    · rename_i a s' hf
      rw [plug, Run.bind_of_returned _ hf]
      exact ih a hs
    · cases hs
  | pending inner next ih => exact Run.bind_of_unwinds next (ih hs)

/-- What stands in a hole that is not reached does not matter. -/
theorem plug_of_not_entered (C : Context σ η α) {s : Session σ} (hs : C.enter s = none)
    (m m' : Run σ η) : C.plug m s = C.plug m' s := by
  induction C generalizing s with
  | hole => cases hs
  | within site inner ih =>
    rw [enter] at hs
    split at hs
    · rename_i i s' he
      -- the combinator is run up to its function, which does the same with either
      obtain ⟨next, hn⟩ := site.exists_apply_eq_bind he
      rw [plug, plug, hn, hn, Run.bind_apply, Run.bind_apply, ih i hs]
    · rename_i he
      exact site.apply_of_not_entered he _ _
  | after first inner ih =>
    rw [enter] at hs
    rw [plug, plug, Run.bind_apply, Run.bind_apply]
    rcases hf : first s with ⟨a | c | text, s'⟩
    · rw [hf] at hs
      exact ih a hs
    · rfl
    · rfl
  | pending inner next ih => rw [plug, plug, Run.bind_apply, Run.bind_apply, ih hs]

/-- **Fatal causes escape every nesting.** Let the hole of a context be reached in the session
`s₁`, and let no more be known of the context.

* If a call in the hole comes by a cause that is fatal by the classifier then in effect, and hands
  it over to be captured, then this very cause unwinds out of the context. The session is left as it
  was when the cause was handed over, but for one report that the cause escapes, and for the
  classifier that the judgement went by, which is in effect now in any case. Caught outside of the
  context, the cause is what is caught.
* A cause thrown in the hole does the same, fatal or not, and nothing is reported.
* A panic without a cause leaves the context just so, and is not caught. -/
theorem fatal_escapes (C : Context σ η α) {s s₁ : Session σ} (hs : C.enter s = some s₁) :
    (∀ (call : CapturingCall σ η) (c : Cause) (s₂ : Session σ),
      call.handed s₁ = (.returned (some c), s₂) → s₂.inEffect.isFatal c = true →
      let left : Session σ :=
        { s₂ with classifier := some s₂.inEffect, events := s₂.events ++ [.escaping c] }
      C.plug call.run s = (.thrown c, left) ∧
        Run.catching (C.plug call.run) s = (.returned (.error c), left)) ∧
    (∀ c : Cause, C.plug (Run.throw c) s = (.thrown c, s₁) ∧
      Run.catching (C.plug (Run.throw c)) s = (.returned (.error c), s₁)) ∧
    ∀ text : String, C.plug (Run.panic text) s = (.panicked text, s₁) ∧
      Run.catching (C.plug (Run.panic text)) s = (.panicked text, s₁) := by
  -- catching goes by what unwinds out of the context
  have caught : ∀ {m : Run σ η} {c : Cause} {s₂ : Session σ}, m s₁ = (.thrown c, s₂) →
      C.plug m s = (.thrown c, s₂) ∧
        Run.catching (C.plug m) s = (.returned (.error c), s₂) := by
    intro m c s₂ hm
    have hC : C.plug m s = (.thrown c, s₂) := C.plug_of_unwinds (p := .cause c) hs hm
    exact ⟨hC, by rw [Run.catching, hC]⟩
  refine ⟨?_, ?_, ?_⟩
  · intro call c s₂ hc hf
    exact caught (call.run_of_handed_fatal hc hf)
  · intro c
    exact caught (Run.throw_apply c s₁)
  · intro text
    have hC : C.plug (Run.panic text) s = (.panicked text, s₁) :=
      C.plug_of_unwinds (p := .panic text) hs (Run.panic_apply text s₁)
    exact ⟨hC, by rw [Run.catching, hC]⟩

/-- A linkage fault that is to be captured in the function of a maybe in the function of an attempt,
with a stage to come: it escapes, and the stage is not run. -/
theorem linkage_escapes :
    let c : Cause := { condition := ⟨0, .linkage, none⟩ }
    let C : Context Nat (Attempt Unit) (Attempt (Maybe (Attempt Unit))) :=
      .within (.map (.success ())) fun _ =>
        .pending (.within (.maybeMap (.present ())) fun _ => .hole) fun m =>
          Run.call fun n => (.ok m, n + 1)
    let s : Session Nat := Session.start 0
    C.enter s = some s ∧ Classifier.standard.isFatal c = true ∧
      C.plug (CapturingCall.fail c).run s =
        (.thrown c, { s with classifier := some .standard, events := [.escaping c] }) := by
  intro c C s
  have hf : Classifier.standard.isFatal c = true :=
    Policy.isFatal_of_mem (show Kind.linkage ∈ Policy.standard.kinds by decide)
  exact ⟨rfl, hf, ((C.fatal_escapes rfl).1 (.fail c) c s rfl hf).1⟩

end Context

end Fallible
