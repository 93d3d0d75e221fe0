import Fallible.Proofs.History.Traced

/-!
# A laxer classifier

A run depends on the classifier in effect through the verdicts on the causes that it judges, and
through nothing else as long as nobody asks for the classifier itself. So where a run judges no
cause fatal, it is the same run by every classifier that is laxer.

## Main definitions

* `Classifier.Laxer`: finding fatal only what another one does
* `Session.under`: a session with another classifier in effect and with other events so far

## Main results

* `Run.Takes.apply_under_of_agree`: the run by a classifier that agrees on what is judged
* `Program.run_of_laxer`: whole programs under two policies
-/

namespace Fallible

variable {σ α : Type}

/-- What `k` finds fatal, `l` does as well. -/
def Classifier.Laxer (k l : Classifier) : Prop :=
  ∀ c, k.isFatal c = true → l.isFatal c = true

theorem Classifier.Laxer.not_fatal {k l : Classifier} (h : k.Laxer l) {c : Cause}
    (hc : l.isFatal c = false) : k.isFatal c = false := by
  cases hk : k.isFatal c with
  | false => rfl
  | true =>
    rw [h c hk] at hc
    cases hc

/-- The session with a classifier in effect and with other events so far. -/
def Session.under (s : Session σ) (k : Classifier) (es : List Event) : Session σ :=
  { s with classifier := some k, events := es }

namespace Run.Takes

variable {m : Run σ α} {s : Session σ} {steps : List Step} {k l : Classifier}

/-- A run that reports nothing and does the same by either classifier. -/
theorem exists_under_of_events_eq {es : List Event} (hn : (m s).2.events = s.events)
    (hu : m (s.under k es) = ((m s).1, (m s).2.under k es)) (ht : m.Takes (s.under k es) steps) :
    ∃ new, (m s).2.events = s.events ++ new ∧
      m (s.under k es) = ((m s).1, (m s).2.under k (es ++ new)) ∧ m.Takes (s.under k es) steps := by
  refine ⟨[], ?_, ?_, ht⟩
  · rw [hn, List.append_nil]
  · rw [hu, List.append_nil]

/-- **The run by another classifier** that agrees on every cause that is judged ends in the same
way, takes the same steps and does the same to the session, apart from the classifier: it reports
the same after whatever was reported before. -/
theorem apply_under_of_agree (h : m.Takes s steps) (hs : s.classifier = some l)
    (hasked : .asked ∉ steps) (hj : ∀ c, .judged c ∈ steps → k.isFatal c = l.isFatal c)
    (es : List Event) :
    ∃ new, (m s).2.events = s.events ++ new ∧
      m (s.under k es) = ((m s).1, (m s).2.under k (es ++ new)) ∧ m.Takes (s.under k es) steps := by
  induction h generalizing es with
  | pure a s => exact exists_under_of_events_eq rfl rfl (.pure a _)
  | fresh s => exact exists_under_of_events_eq rfl rfl (.fresh _)
  | emit e s => exact ⟨[e], rfl, rfl, .emit e _⟩
  | call f s => exact exists_under_of_events_eq rfl rfl (.call f _)
  | throw c s => exact exists_under_of_events_eq rfl rfl (.throw c _)
  | panic text s => exact exists_under_of_events_eq rfl rfl (.panic text _)
  | active s => exact absurd (List.mem_singleton_self _) hasked
  | judge c s =>
    have hkl : k.isFatal c = l.isFatal c := hj c (List.mem_singleton_self _)
    have hu : (s.under k es).classifier = some k := rfl
    refine exists_under_of_events_eq ?_ ?_ (.judge c _)
    · rw [Cause.judge_apply, Session.decided_of_eq_some hs]
    · rw [Cause.judge_apply, Cause.judge_apply, Session.decided_of_eq_some hs,
        Session.decided_of_eq_some hu, Session.inEffect_of_eq_some hs,
        Session.inEffect_of_eq_some hu, hkl]
  | @install i s s' answer h =>
    -- there is a classifier in effect already, in either session
    rw [Classifier.install_apply, hs] at h
    cases h
    have hi : i.install (s.under k es) = (.returned (.error .alreadyActive), s.under k es) := by
      rw [Classifier.install_apply]
      rfl
    refine exists_under_of_events_eq ?_ ?_ (.install hi)
    · rw [Classifier.install_apply, hs]
    · rw [hi, Classifier.install_apply, hs]
  | @bind _ _ m f s s' a steps later h hm hf ihm ihf =>
    have hs' : s'.classifier = some l := by
      have hc := hm.classifier_eq_some hs
      rwa [h] at hc
    obtain ⟨new, hn, hu, ht⟩ := ihm hs (fun hi => hasked (List.mem_append_left _ hi))
      (fun c hc => hj c (List.mem_append_left _ hc)) es
    obtain ⟨more, hn', hu', ht'⟩ := ihf hs' (fun hi => hasked (List.mem_append_right _ hi))
      (fun c hc => hj c (List.mem_append_right _ hc)) (es ++ new)
    rw [h] at hn hu
    rw [bind_of_returned f h, bind_of_returned f hu]
    refine ⟨new ++ more, ?_, ?_, .bind hu ht ht'⟩
    · rw [hn', hn, List.append_assoc]
    · rw [hu', List.append_assoc]
  | @unwind _ _ m f s steps h hm ih =>
    obtain ⟨new, hn, hu, ht⟩ := ih hs hasked hj es
    have hu' : ∀ a, (m (s.under k es)).1 ≠ .returned a := by
      rw [hu]
      exact h
    refine ⟨new, ?_, ?_, .unwind hu' ht⟩
    · obtain ⟨outcome, -, hb⟩ := bind_apply_of_unwinds f h
      rw [hb, hn]
    · rw [bind_apply, bind_apply, hu]
      rcases hr : m s with ⟨a | c | text, s'⟩
      · exact absurd (congrArg Prod.fst hr) (h a)
      · rfl
      · rfl
  | ending g h hm ih =>
    obtain ⟨new, hn, hu, ht⟩ := ih hs hasked hj es
    refine ⟨new, ?_, ?_, .ending g h ht⟩
    · rw [h]
      exact hn
    · rw [h, h, hu]

/-- A laxer classifier agrees where nothing is judged fatal. -/
theorem apply_under (h : m.Takes s steps) (hk : k.Laxer l) (hs : s.classifier = some l)
    (hasked : .asked ∉ steps) (hj : ∀ c, .judged c ∈ steps → l.isFatal c = false)
    (es : List Event) :
    ∃ new, (m s).2.events = s.events ++ new ∧
      m (s.under k es) = ((m s).1, (m s).2.under k (es ++ new)) ∧ m.Takes (s.under k es) steps := by
  refine h.apply_under_of_agree hs hasked (fun c hc => ?_) es
  rw [hj c hc, hk.not_fatal (hj c hc)]

end Run.Takes

/-- **A laxer policy changes no run that hits no fatal cause.** Let whatever is fatal under `P` be
fatal under `Q`, and let the one policy or the other be installed in the same session, without a
classifier so far. If the run of a program with `Q` never asks for the classifier itself and judges
no cause fatal, then the run with `P` takes the same steps and ends in the same way, with the same
value or the same cause or panic unwinding. The caller holds the same answers and arguments in the
same order, conditions have the same identities, and the same events were reported. -/
theorem Program.run_of_laxer {P Q : Policy} (hPQ : P.classifier.Laxer Q.classifier) (p : Program)
    {s sP sQ : Session Live} (hP : P.classifier.install s = (.returned (.ok ()), sP))
    (hQ : Q.classifier.install s = (.returned (.ok ()), sQ)) (hasked : .asked ∉ p.history sQ)
    (hj : ∀ c, .judged c ∈ p.history sQ → Q.classifier.isFatal c = false) :
    p.run.Takes sP (p.history sQ) ∧
    (p.run sP).1 = (p.run sQ).1 ∧
    (p.run sP).2.caller = (p.run sQ).2.caller ∧
    (p.run sP).2.next = (p.run sQ).2.next ∧
    ∃ new, (p.run sP).2.events = sP.events ++ new ∧ (p.run sQ).2.events = sQ.events ++ new := by
  obtain ⟨-, hsP⟩ := Classifier.install_eq_ok_iff.mp hP
  obtain ⟨-, hsQ⟩ := Classifier.install_eq_ok_iff.mp hQ
  have hsome : sQ.classifier = some Q.classifier := by
    rw [← hsQ]
    rfl
  -- the two sessions differ in the classifier and in the event that reports it
  have hunder : sQ.under P.classifier sP.events = sP := by
    rw [← hsP, ← hsQ]
    rfl
  obtain ⟨new, hn, hu, ht⟩ := (p.traced_run sQ).apply_under hPQ hsome hasked hj sP.events
  rw [hunder] at hu ht
  rw [hu]
  exact ⟨ht, rfl, rfl, rfl, new, rfl, hn⟩

/-- A cause that is captured under the standard policy, and so under the empty one. -/
theorem Program.run_of_empty_policy :
    let c : Cause := { condition := ⟨0, .io, some "disk"⟩ }
    let p : Program := .call (.fail c) (.refuse c) (.refuse c) (.refuse c)
    let sP := (Policy.empty.classifier.install (Session.start [])).2
    let sQ := (Policy.standard.classifier.install (Session.start [])).2
    (p.run sP).1 = (p.run sQ).1 ∧ (p.run sQ).2.caller = [.ok (.failure ⟨c⟩)] := by
  intro c p sP sQ
  -- the only step is the judgement
  have hh : ∀ e ∈ p.history sQ, e = .judged c := by
    intro e he
    obtain he | ⟨a, t, -, he⟩ := History.mem_andThen_iff.mp he
    · exact List.mem_singleton.mp he
    · cases he
  have hf : Policy.standard.classifier.isFatal c = false := by
    have hk : Policy.standard.kinds = Policy.defaultKinds := by decide
    show Policy.standard.isFatal .io = false
    rw [Policy.isFatal, hk, Policy.defaultKinds]
    simp [Kind.isA, Kind.parent]
  have hj : ∀ d, Step.judged d ∈ p.history sQ → Policy.standard.classifier.isFatal d = false := by
    intro d hd
    obtain rfl := Step.judged.inj (hh _ hd)
    exact hf
  have hP : Policy.empty.classifier.install (Session.start []) = (.returned (.ok ()), sP) := rfl
  have hQ : Policy.standard.classifier.install (Session.start []) = (.returned (.ok ()), sQ) := rfl
  have h := p.run_of_laxer (fun _ h => by cases h) hP hQ (fun ha => by cases hh _ ha) hj
  exact ⟨h.2.1, h.2.2.1.symm⟩

end Fallible
