import Fallible.Proofs.Judgement

/-!
# What a run does with the classifier

Three steps of a run have to do with the classifier: somebody asks for it, a cause is judged by it,
or one is to be installed. A run takes such steps in an order that depends on the session it starts
in, and everything else that it does, from raising conditions to unwinding, is no such step. The
steps tell which classifier is in effect afterwards: the first of them that settles the matter does
so for good.

## Main definitions

* `Step`, `Step.chosen`: the steps, and the classifier that a list of steps settles on
* `Run.Takes`: the steps that a run takes
* `History`, `Run.Traced`: steps as a function of the session that a run starts in

## Main results

* `Run.Takes.classifier_eq`: the classifier after a run, from the steps that it took
* `Run.Takes.installed_iff`: which installations of a run succeeded
* `Run.Traced.bind`: the history of runs one after the other
-/

namespace Fallible

variable {σ : Type}

/-- **Installing** succeeds where there is no classifier in effect, and only there. -/
theorem Classifier.install_eq_ok_iff {k : Classifier} {s s' : Session σ} :
    k.install s = (.returned (.ok ()), s') ↔ s.classifier = none ∧
      { s with classifier := some k }.reporting (.installed k) = s' := by
  rw [Classifier.install_apply]
  cases s.classifier <;> simp

/-! ## Steps -/

/-- A step that has to do with the classifier. -/
inductive Step where
  /-- The classifier in effect is asked for. -/
  | asked
  /-- A cause is judged. -/
  | judged (c : Cause)
  /-- A classifier is to be installed, and this is the answer. -/
  | installed (k : Classifier) (answer : Except Classifier.InstallError Unit)

namespace Step

/-- Whether a step settles which classifier is in effect, if none is yet: a judgement and a question
do, and so does an installation that succeeds. -/
def settles : Step → Bool
  | asked | judged _ => true
  | installed _ answer => answer.isOk

/-- The classifier that a step settles on. -/
def choice : Step → Classifier
  | asked | judged _ => Classifier.standard
  | installed k _ => k

/-- The classifier that the first of the steps settles on that settles on any. -/
def chosen (steps : List Step) : Option Classifier :=
  (steps.find? settles).map choice

theorem chosen_append (steps later : List Step) :
    chosen (steps ++ later) = (chosen steps).or (chosen later) := by
  rw [chosen, List.find?_append]
  cases h : steps.find? settles <;> simp [chosen, h]

theorem chosen_eq_none_iff {steps : List Step} :
    chosen steps = none ↔ ∀ e ∈ steps, e.settles = false := by
  simp [chosen]

end Step

/-! ## The steps of a run -/

/-- The steps that a run takes from a session, in order. There may be others that it might as well
have taken, such as a judgement to whose verdict it pays no heed. -/
inductive Run.Takes : {α : Type} → Run σ α → Session σ → List Step → Prop where
  | pure (a : α) (s : Session σ) : Takes (Pure.pure a) s []
  | fresh (s : Session σ) : Takes fresh s []
  | emit (e : Event) (s : Session σ) : Takes (emit e) s []
  | call (f : σ → α × σ) (s : Session σ) : Takes (call f) s []
  | throw (c : Cause) (s : Session σ) : Takes (throw c : Run σ α) s []
  | panic (text : String) (s : Session σ) : Takes (panic text : Run σ α) s []
  | active (s : Session σ) : Takes Classifier.active s [.asked]
  | judge (c : Cause) (s : Session σ) : Takes c.judge s [.judged c]
  | install {k : Classifier} {s s' : Session σ} {answer : Except Classifier.InstallError Unit}
      (h : k.install s = (.returned answer, s')) : Takes k.install s [.installed k answer]
  /-- Where a run returns, what comes next takes its steps in the session that is left. -/
  | bind {m : Run σ α} {f : α → Run σ β} {s s' : Session σ} {a : α} {steps later : List Step}
      (h : m s = (.returned a, s')) (hm : Takes m s steps) (hf : Takes (f a) s' later) :
      Takes (m >>= f) s (steps ++ later)
  /-- Where a run unwinds, nothing comes next. -/
  | unwind {m : Run σ α} {f : α → Run σ β} {s : Session σ} {steps : List Step}
      (h : ∀ a, (m s).1 ≠ .returned a) (hm : Takes m s steps) : Takes (m >>= f) s steps
  /-- Looking at how a run ends is no step. -/
  | ending {m : Run σ α} {m' : Run σ β} (g : Outcome α → Outcome β)
      (h : ∀ s, m' s = (g (m s).1, (m s).2)) {s : Session σ} {steps : List Step}
      (hm : Takes m s steps) : Takes m' s steps

section Runs

variable {α β : Type}

namespace Run

/-- Where a run does not return, what would come next does not matter. -/
theorem bind_apply_of_unwinds {m : Run σ α} {s : Session σ} (f : α → Run σ β)
    (h : ∀ a, (m s).1 ≠ .returned a) :
    ∃ outcome : Outcome β, (∀ b, outcome ≠ .returned b) ∧ (m >>= f) s = (outcome, (m s).2) := by
  rw [bind_apply]
  rcases hm : m s with ⟨a | c | text, s'⟩
  · rw [hm] at h
    exact absurd rfl (h a)
  · exact ⟨.thrown c, fun _ hb => (nomatch hb), rfl⟩
  · exact ⟨.panicked text, fun _ hb => (nomatch hb), rfl⟩

namespace Takes

variable {m : Run σ α} {s : Session σ} {steps : List Step}

/-- **The classifier after a run** is the one that was in effect before, if there was one, and else
the one that the run settled on. -/
theorem classifier_eq (h : Takes m s steps) :
    (m s).2.classifier = s.classifier.or (Step.chosen steps) := by
  induction h with
  | pure | fresh | emit | call | throw | panic => exact (Option.or_none ..).symm
  | active s =>
    rw [Classifier.active_apply]
    cases hs : s.classifier <;> simp [Session.inEffect, hs, Step.chosen, Step.settles, Step.choice]
  | judge c s =>
    rw [Cause.judge_apply]
    cases hs : s.classifier <;> simp [Session.inEffect, hs, Step.chosen, Step.settles, Step.choice]
  | @install k s s' answer h =>
    rw [Classifier.install_apply] at h ⊢
    cases hs : s.classifier with
    | some l =>
      rw [hs]
      rfl
    | none =>
      rw [hs] at h
      cases h
      rfl
  | @bind _ _ m f s s' a steps later h hm hf ihm ihf =>
    rw [Run.bind_of_returned f h, ihf, Step.chosen_append, ← Option.or_assoc, ← ihm, h]
  | @unwind _ _ m f s steps h hm ih =>
    obtain ⟨outcome, -, hb⟩ := bind_apply_of_unwinds f h
    rw [hb]
    exact ih
  | ending g h hm ih =>
    rw [h]
    exact ih

/-- A classifier in effect stays. -/
theorem classifier_eq_some (h : Takes m s steps) {k : Classifier} (hs : s.classifier = some k) :
    (m s).2.classifier = some k := by
  rw [h.classifier_eq, hs, Option.some_or]

/-- **Which installations succeeded**: those before which there was no classifier and no step had
settled on one. -/
theorem installed_iff (h : Takes m s steps) {before later : List Step} {k : Classifier}
    {answer : Except Classifier.InstallError Unit}
    (hsteps : steps = before ++ .installed k answer :: later) :
    answer = .ok () ↔ s.classifier = none ∧ ∀ e ∈ before, e.settles = false := by
  induction h generalizing before later with
  | pure | fresh | emit | call | throw | panic => simp at hsteps
  | active | judge =>
    obtain ⟨-, he⟩ | ⟨-, he⟩ := List.append_eq_singleton_iff.mp hsteps.symm <;> cases he
  | @install l s s' result h =>
    -- the installation at hand is the only step
    obtain ⟨rfl, he⟩ | ⟨-, he⟩ := List.append_eq_singleton_iff.mp hsteps.symm <;> cases he
    rw [Classifier.install_apply] at h
    cases hs : s.classifier <;> rw [hs] at h <;> cases h <;> simp
  | @bind _ _ m f s s' a steps next h hm hf ihm ihf =>
    have hs' : s'.classifier = s.classifier.or (Step.chosen steps) := by
      rw [← hm.classifier_eq, h]
    obtain ⟨mid, rfl, he⟩ | ⟨mid, rfl, he⟩ := List.append_eq_append_iff.mp hsteps
    · -- it is one of the later steps, and all steps of the first run come before it
      rw [ihf he, hs', Option.or_eq_none_iff, Step.chosen_eq_none_iff, and_assoc]
      simp only [List.mem_append, or_imp, forall_and]
    · cases mid with
      | nil =>
        have hn : next = [] ++ .installed k answer :: later := he.symm
        rw [List.append_nil] at hs'
        rw [ihf hn, hs', Option.or_eq_none_iff, Step.chosen_eq_none_iff]
        simp
      | cons e mid =>
        -- it is one of the steps of the first run
        obtain ⟨rfl, rfl⟩ := List.cons.inj he
        exact ihm rfl
  | unwind h hm ih => exact ih hsteps
  | ending g h hm ih => exact ih hsteps

/-- Making something of the answer is no step. -/
theorem map (f : α → β) (h : Takes m s steps) : Takes (f <$> m) s steps := by
  refine .ending
    (fun
      | .returned a => .returned (f a)
      | .thrown c => .thrown c
      | .panicked text => .panicked text) (fun s => ?_) h
  rw [Run.map_apply]
  rcases m s with ⟨_ | _ | _, _⟩ <;> rfl

end Takes

end Run

end Runs

/-! ## Histories -/

section Histories

variable {α β : Type}

/-- The steps of a run, as they depend on the session that it starts in. -/
abbrev History (σ : Type) := Session σ → List Step

namespace History

/-- No steps at all. -/
def silent : History σ := fun _ => []

/-- A cause is judged. -/
def judging (c : Cause) : History σ := fun _ => [.judged c]

/-- A classifier is to be installed. -/
def installing (k : Classifier) : History σ := fun s =>
  match k.install s with
  | (.returned answer, _) => [.installed k answer]
  | _ => []

/-- The steps of `m`, which are those of `h`, and then of what comes next if `m` returns. -/
def andThen (h : History σ) (m : Run σ α) (next : α → History σ) : History σ := fun s =>
  h s ++
    match m s with
    | (.returned a, s') => next a s'
    | _ => []

/-- The steps after a run that takes none itself. -/
def after (m : Run σ α) (next : α → History σ) : History σ :=
  silent.andThen m next

/-- A cause that is answered with is judged, and a value is not. -/
def capturing : Except Cause α → History σ
  | .ok _ => silent
  | .error c => judging c

/-- Nothing is added by what takes no steps. -/
theorem andThen_silent (h : History σ) (m : Run σ α) : (h.andThen m fun _ => silent) = h := by
  funext s
  rw [andThen]
  rcases m s with ⟨_ | _ | _, _⟩ <;> exact List.append_nil _

/-- A step is taken in what comes first, or in what comes next where that is reached. -/
theorem mem_andThen_iff {h : History σ} {m : Run σ α} {next : α → History σ} {s : Session σ}
    {e : Step} : e ∈ h.andThen m next s ↔
      e ∈ h s ∨ ∃ a s', m s = (.returned a, s') ∧ e ∈ next a s' := by
  rw [andThen, List.mem_append]
  refine or_congr_right ?_
  rcases m s with ⟨a | c | text, s'⟩
  · constructor
    · exact fun he => ⟨a, s', rfl, he⟩
    · rintro ⟨b, t, hb, he⟩
      cases hb
      exact he
  · simp
  · simp

end History

namespace Run

/-- A run takes the steps of a history. -/
def Traced (m : Run σ α) (h : History σ) : Prop :=
  ∀ s, m.Takes s (h s)

namespace Traced

variable {m : Run σ α} {h : History σ} {s : Session σ}

theorem pure (a : α) : Traced (Pure.pure a : Run σ α) .silent :=
  Takes.pure a

theorem throw (c : Cause) : Traced (Run.throw c : Run σ α) .silent :=
  Takes.throw c

theorem panic (text : String) : Traced (Run.panic text : Run σ α) .silent :=
  Takes.panic text

theorem emit (e : Event) : Traced (Run.emit e : Run σ Unit) .silent :=
  Takes.emit e

/-- **Runs one after the other** take their steps one after the other. -/
theorem bind {f : α → Run σ β} {next : α → History σ} (hm : Traced m h)
    (hf : ∀ a, Traced (f a) (next a)) : Traced (m >>= f) (h.andThen m next) := by
  intro s
  rw [History.andThen]
  rcases hr : m s with ⟨a | c | text, s'⟩
  · exact (hm s).bind hr (hf a s')
  all_goals
    rw [List.append_nil]
    refine .unwind ?_ (hm s)
    rw [hr]
    exact fun _ ha => nomatch ha

/-- What takes no steps may come next. -/
theorem bind_silent {f : α → Run σ β} (hm : Traced m h) (hf : ∀ a, Traced (f a) .silent) :
    Traced (m >>= f) h := by
  have hb := hm.bind hf
  rwa [History.andThen_silent] at hb

/-- What takes no steps may come first. -/
theorem after {f : α → Run σ β} {next : α → History σ} (hm : Traced m .silent)
    (hf : ∀ a, Traced (f a) (next a)) : Traced (m >>= f) (.after m next) :=
  hm.bind hf

theorem ending {m' : Run σ β} (g : Outcome α → Outcome β)
    (hg : ∀ s, m' s = (g (m s).1, (m s).2)) (hm : Traced m h) : Traced m' h :=
  fun s => .ending g hg (hm s)

end Traced

end Run

end Histories

end Fallible
