import Fallible.Proofs.History.FirstWriter
import Fallible.Proofs.History.Laxer

/-!
# A history names exactly the judgements

The steps that a run takes are not unique: one that asks for the classifier might as well judge a
cause before, and pay no heed to the verdict. The history of a program is the least of them. The run
depends on the verdicts on the causes in its history, and on no others: with the contrary verdict on
a cause, it is another run just where the history judges that cause.

The verdict shows in the event that reports a capture or an escape, or in the answer that the caller
holds. Neither events nor answers are ever lost, so two runs that came apart stay apart. Documents
are the exception: a document that is refused for something else tells nothing of the verdicts on
its failures. Which of these are judged is said by `Schema.mem_history_iff`.

## Main definitions

* `Classifier.ContraryAt`: the contrary verdict on one cause
* `Session.judgedBy`: a session with another classifier in effect
* `Run.Agrees`: runs that do the same where their history does not judge a cause
* `Session.Forks`, `Run.Parts`: runs that come apart where it does

## Main results

* `Run.Agrees.tracing`, `Run.Parts.tracing`: what operations do
* `Program.run_judgedBy`: a run depends on no verdict that its history does not name
* `Program.judged_mem_history_iff`: the history names just the verdicts that the run depends on
* `Program.judged_mem_of_takes`: every list of steps has the judgements of the history
-/

namespace Fallible

open History (silent judging installing)

variable {k l : Classifier} {c : Cause}

/-! ## The contrary verdict -/

/-- Two classifiers that are shown in the same way and give the same verdicts, but for one cause. -/
structure Classifier.ContraryAt (k l : Classifier) (c : Cause) : Prop where
  term : l.term = k.term
  at_self : l.isFatal c = !k.isFatal c
  of_ne {d : Cause} (h : d ≠ c) : l.isFatal d = k.isFatal d

theorem Classifier.exists_contraryAt (k : Classifier) (c : Cause) : ∃ l, k.ContraryAt l c := by
  classical
  let l : Classifier := ⟨fun d => if d = c then !k.isFatal d else k.isFatal d, k.term⟩
  exact ⟨l, rfl, if_pos rfl, fun h => if_neg h⟩

namespace Session

variable {σ : Type}

/-- The session with another classifier in effect. -/
def judgedBy (s : Session σ) (k : Classifier) : Session σ :=
  { s with classifier := some k }

@[simp] theorem inEffect_judgedBy (s : Session σ) (k : Classifier) :
    (s.judgedBy k).inEffect = k := rfl

@[simp] theorem decided_judgedBy (s : Session σ) (k : Classifier) :
    (s.judgedBy k).decided = s.judgedBy k := rfl

end Session

/-- Where a run can do without judging `c`, the verdict on it does not matter. -/
theorem Run.Takes.apply_judgedBy {σ α : Type} {m : Run σ α} {s : Session σ} {steps : List Step}
    (h : m.Takes s steps) (hl : k.ContraryAt l c) (hs : s.classifier = some k)
    (hasked : .asked ∉ steps) (hc : .judged c ∉ steps) :
    m (s.judgedBy l) = ((m s).1, (m s).2.judgedBy l) := by
  have hj (d : Cause) (hd : .judged d ∈ steps) : l.isFatal d = k.isFatal d :=
    hl.of_ne fun he => hc (he ▸ hd)
  obtain ⟨new, hn, hu, -⟩ := h.apply_under_of_agree hs hasked hj s.events
  rw [← hn] at hu
  exact hu

/-! ## Runs that agree -/

/-- By the classifier `l` in place of `k`, a run does the same where its history does not judge
`c`. -/
structure Run.Agrees (k l : Classifier) (c : Cause) {α : Type} (m : Run Live α)
    (h : History Live) : Prop where
  traced : m.Traced h
  agrees {s : Session Live} (hs : s.classifier = some k) (hc : .judged c ∉ h s) :
    m (s.judgedBy l) = ((m s).1, (m s).2.judgedBy l)

theorem History.eq_installed_of_mem {σ : Type} {i : Classifier} {s : Session σ} {e : Step}
    (he : e ∈ installing i s) : ∃ answer, e = .installed i answer := by
  rw [installing, Classifier.install_apply] at he
  cases hs : s.classifier <;> rw [hs] at he <;> exact ⟨_, List.mem_singleton.mp he⟩

namespace Run.Agrees

variable {α β : Type}

/-- Where nobody asks for the classifier, the steps tell. -/
theorem of_traced (hl : k.ContraryAt l c) {m : Run Live α} {h : History Live} (ht : m.Traced h)
    (hasked : ∀ s, .asked ∉ h s) : Agrees k l c m h :=
  ⟨ht, fun {s} hs hc => (ht s).apply_judgedBy hl hs (hasked s) hc⟩

theorem of_silent (hl : k.ContraryAt l c) {m : Run Live α} (ht : m.Traced silent) :
    Agrees k l c m silent :=
  of_traced hl ht fun _ h => nomatch h

theorem of_judging (hl : k.ContraryAt l c) {m : Run Live α} {d : Cause}
    (ht : m.Traced (judging d)) : Agrees k l c m (judging d) :=
  of_traced hl ht fun _ h => nomatch List.mem_singleton.mp h

/-- Asking for the classifier tells no more than how it is shown. -/
theorem hold_active (hl : k.ContraryAt l c) : Agrees k l c
    (do Body.hold (.ok (.text (← Classifier.active).term.line))) fun _ => [.asked] := by
  refine ⟨Traced.tracing.active, fun {s} hs _ => ?_⟩
  rw [bind_of_returned _ (Classifier.active_apply s), Session.inEffect_of_eq_some hs,
    Session.decided_of_eq_some hs, bind_of_returned _ (Classifier.active_apply _),
    Session.inEffect_judgedBy, Session.decided_judgedBy, hl.term]
  rfl

theorem bind {m : Run Live α} {h : History Live} {f : α → Run Live β} {next : α → History Live}
    (hm : Agrees k l c m h) (hf : ∀ a, Agrees k l c (f a) (next a)) :
    Agrees k l c (m >>= f) (h.andThen m next) := by
  refine ⟨hm.traced.bind fun a => (hf a).traced, fun {s} hs hc => ?_⟩
  -- neither the first run nor what comes next judges the cause
  rw [History.mem_andThen_iff, not_or] at hc
  have hk := (hm.traced s).classifier_eq_some hs
  rw [bind_apply, bind_apply, hm.agrees hs hc.1]
  rcases hr : m s with ⟨a | d | text, s'⟩
  · rw [hr] at hk
    exact (hf a).agrees hk fun hn => hc.2 ⟨a, s', hr, hn⟩
  · rfl
  · rfl

theorem ending {m : Run Live α} {m' : Run Live β} {h : History Live} (g : Outcome α → Outcome β)
    (hg : ∀ s, m' s = (g (m s).1, (m s).2)) (hm : Agrees k l c m h) : Agrees k l c m' h := by
  refine ⟨hm.traced.ending g hg, fun {s} hs hc => ?_⟩
  rw [hg, hg, hm.agrees hs hc]

/-- **What operations do** is the same where the cause is not judged. -/
theorem tracing (hl : k.ContraryAt l c) : Tracing (@Agrees k l c) where
  pure a := of_silent hl (.pure a)
  throw d := of_silent hl (.throw d)
  panic text := of_silent hl (.panic text)
  fresh := of_silent hl Traced.tracing.fresh
  emit e := of_silent hl (.emit e)
  hold a := of_silent hl (Traced.tracing.hold a)
  held := of_silent hl Traced.tracing.held
  install i := of_traced hl (.install i) fun _ h => nomatch History.eq_installed_of_mem h
  capture d := of_judging hl (.capture d)
  active := hold_active hl
  judge d := of_judging hl (Traced.tracing.judge d)
  ofCause d := of_judging hl (Traced.tracing.ofCause d)
  bind := bind
  ending := ending

theorem reads (hl : k.ContraryAt l c) (op : Operation) : op.Reads (@Agrees k l c) := by
  cases op with
  | decode schema bytes =>
    refine of_traced hl (Traced.reads (.decode schema bytes)) fun s ha => ?_
    obtain ⟨d, -, he⟩ := (schema.mem_history_iff _ _ s).mp ha
    cases he
  | _ => trivial

end Run.Agrees

/-- **A run depends on no other verdict**: where the history of a program does not judge a cause,
the run by the contrary verdict on it ends in the same way and leaves the same session, apart from
the classifier. -/
theorem Program.run_judgedBy (p : Program) (hl : k.ContraryAt l c) {s : Session Live}
    (hs : s.classifier = some k) (hc : .judged c ∉ p.history s) :
    p.run (s.judgedBy l) = ((p.run s).1, (p.run s).2.judgedBy l) :=
  (p.tracing_run (Run.Agrees.tracing hl) (p.calls_of_forall (Run.Agrees.reads hl))).agrees hs hc

/-! ## Runs that come apart -/

namespace Session

/-- No event and no answer that is held is taken away. -/
structure Grows (s s' : Session Live) : Prop where
  events : s.events <+: s'.events
  answers : s.caller <:+ s'.caller

/-- Two sessions have different pasts: after the same events or the same answers, there came another
one. -/
inductive Forks (s t : Session Live) : Prop
  | events {past : List Event} {e f : Event} (h : e ≠ f) (hs : past ++ [e] <+: s.events)
      (ht : past ++ [f] <+: t.events)
  | answers {past : Live} {a b : Answer} (h : a ≠ b) (hs : a :: past <:+ s.caller)
      (ht : b :: past <:+ t.caller)

variable {s t s' t' : Session Live}

namespace Grows

theorem refl (s : Session Live) : s.Grows s :=
  ⟨List.prefix_rfl, List.suffix_rfl⟩

theorem trans (h : s.Grows t) (ht : t.Grows t') : s.Grows t' :=
  ⟨h.events.trans ht.events, h.answers.trans ht.answers⟩

theorem decided (s : Session Live) : s.Grows s.decided :=
  ⟨List.prefix_rfl, List.suffix_rfl⟩

theorem reporting (s : Session Live) (e : Event) : s.Grows (s.reporting e) :=
  ⟨List.prefix_append _ _, List.suffix_rfl⟩

theorem holding (s : Session Live) (a : Answer) : s.Grows { s with caller := a :: s.caller } :=
  ⟨List.prefix_rfl, List.suffix_cons _ _⟩

end Grows

namespace Forks

/-- Sessions that came apart stay apart. -/
theorem mono (h : s.Forks t) (hs : s.Grows s') (ht : t.Grows t') : s'.Forks t' := by
  cases h with
  | events h hse hte => exact .events h (hse.trans hs.events) (hte.trans ht.events)
  | answers h hsa hta => exact .answers h (hsa.trans hs.answers) (hta.trans ht.answers)

/-- A session has one past, whoever judges from then on. -/
theorem not_judgedBy (s : Session Live) (k : Classifier) : ¬s.Forks (s.judgedBy k) := by
  intro hf
  cases hf with
  | @events past e f h hs ht =>
    have he : past ++ [e] = past ++ [f] :=
      (List.prefix_of_prefix_length_le hs ht (by simp)).eq_of_length (by simp)
    exact h (List.singleton_inj.mp (List.append_cancel_left he))
  | @answers past a b h hs ht =>
    have he : a :: past = b :: past :=
      (List.suffix_of_suffix_length_le hs ht (by simp)).eq_of_length (by simp)
    exact h (List.cons.inj he).1

end Forks

end Session

/-- By the classifier `l` in place of `k`, a run leaves a session with a different past where its
history judges `c`, and does the same where it does not. -/
structure Run.Parts (k l : Classifier) (c : Cause) {α : Type} (m : Run Live α)
    (h : History Live) : Prop extends Agrees k l c m h where
  grows (s : Session Live) : s.Grows (m s).2
  forks {s : Session Live} (hs : s.classifier = some k) (hc : .judged c ∈ h s) :
    (m s).2.Forks (m (s.judgedBy l)).2

namespace Run.Parts

variable {α β : Type} {m : Run Live α}

/-- What judges nothing need not come apart. -/
theorem of_not_mem {h : History Live} (ha : Agrees k l c m h) (hc : ∀ s, .judged c ∉ h s)
    (hg : ∀ s : Session Live, s.Grows (m s).2) : Parts k l c m h :=
  ⟨ha, hg, fun _ hm => absurd hm (hc _)⟩

theorem of_silent (ha : Agrees k l c m silent) (hg : ∀ s : Session Live, s.Grows (m s).2) :
    Parts k l c m silent :=
  of_not_mem ha (fun _ h => nomatch h) hg

/-- What judges a cause must come apart with the contrary verdict on it. -/
theorem of_judging (hl : k.ContraryAt l c) {d : Cause} (ha : Agrees k l c m (judging d))
    (hg : ∀ s : Session Live, s.Grows (m s).2)
    (hf : ∀ s, s.classifier = some k → l.isFatal d = !k.isFatal d →
      (m s).2.Forks (m (s.judgedBy l)).2) :
    Parts k l c m (judging d) := by
  refine ⟨ha, hg, fun hs hc => ?_⟩
  obtain rfl := Step.judged.inj (List.mem_singleton.mp hc)
  exact hf _ hs hl.at_self

theorem install (hl : k.ContraryAt l c) (i : Classifier) :
    Parts k l c i.install (installing i) := by
  refine of_not_mem ((Agrees.tracing hl).install i) (fun s hc => ?_) fun s => ?_
  · obtain ⟨answer, he⟩ := History.eq_installed_of_mem hc
    cases he
  · rw [Classifier.install_apply]
    cases s.classifier with
    | some _ => exact .refl s
    | none => exact ⟨List.prefix_append _ _, List.suffix_rfl⟩

/-- A capture is reported by the one classifier, and an escape by the other. -/
theorem capture (hl : k.ContraryAt l c) (d : Cause) :
    Parts k l c (Captured.capture d) (judging d) := by
  refine of_judging hl ((Agrees.tracing hl).capture d) (fun s => ?_) fun s hs hd => ?_
  · rw [Captured.capture_apply]
    split <;> exact (Session.Grows.decided s).trans (.reporting _ _)
  · rw [← Session.inEffect_of_eq_some hs] at hd
    have hl : (s.judgedBy l).inEffect.isFatal d = !s.inEffect.isFatal d := hd
    cases hk : s.inEffect.isFatal d with
    | true =>
      rw [hk] at hl
      rw [Captured.capture_of_fatal hk, Captured.capture_of_not_fatal hl,
        Session.decided_of_eq_some hs]
      refine .events ?_ List.prefix_rfl List.prefix_rfl
      exact fun h => nomatch h
    | false =>
      rw [hk] at hl
      rw [Captured.capture_of_not_fatal hk, Captured.capture_of_fatal hl,
        Session.decided_of_eq_some hs]
      refine .events ?_ List.prefix_rfl List.prefix_rfl
      exact fun h => nomatch h

/-- A verdict is told to the caller, in an answer that tells one verdict from the other. -/
theorem hold_verdict (hl : k.ContraryAt l c) {d : Cause} (told : Bool → α) {answer : α → Answer}
    (ha : Agrees k l c (m >>= fun a => Body.hold (answer a)) (judging d))
    (hm : ∀ s, m s = (.returned (told (s.inEffect.isFatal d)), s.decided))
    (ht : answer (told true) ≠ answer (told false)) :
    Parts k l c (m >>= fun a => Body.hold (answer a)) (judging d) := by
  have happly (s : Session Live) : (m >>= fun a => Body.hold (answer a)) s =
      (.returned (), { s.decided with
        caller := answer (told (s.inEffect.isFatal d)) :: s.caller }) := by
    rw [bind_of_returned _ (hm s)]
    rfl
  refine of_judging hl ha (fun s => ?_) fun s hs hd => ?_
  · rw [happly]
    exact (Session.Grows.decided s).trans (.holding _ _)
  · rw [happly, happly, Session.inEffect_of_eq_some hs, Session.inEffect_judgedBy, hd]
    cases k.isFatal d with
    | true => exact .answers ht List.suffix_rfl List.suffix_rfl
    | false => exact .answers ht.symm List.suffix_rfl List.suffix_rfl

theorem hold_active (hl : k.ContraryAt l c) : Parts k l c
    (do Body.hold (.ok (.text (← Classifier.active).term.line))) fun _ => [.asked] := by
  refine of_not_mem (Agrees.hold_active hl) (fun s hc => ?_) fun s => ?_
  · cases List.mem_singleton.mp hc
  · rw [bind_of_returned _ (Classifier.active_apply s)]
    exact (Session.Grows.decided s).trans (.holding _ _)

theorem bind {h : History Live} {f : α → Run Live β} {next : α → History Live}
    (hm : Parts k l c m h) (hf : ∀ a, Parts k l c (f a) (next a)) :
    Parts k l c (m >>= f) (h.andThen m next) := by
  have hgrows (s : Session Live) : (m s).2.Grows ((m >>= f) s).2 := by
    rw [bind_apply]
    rcases m s with ⟨a | d | text, s'⟩
    · exact (hf a).grows s'
    · exact .refl _
    · exact .refl _
  refine ⟨hm.toAgrees.bind fun a => (hf a).toAgrees, fun s => (hm.grows s).trans (hgrows s),
    fun {s} hs hc => ?_⟩
  by_cases hh : .judged c ∈ h s
  · -- the runs came apart before, and going on they stay apart
    exact (hm.forks hs hh).mono (hgrows s) (hgrows _)
  · obtain ⟨a, s', hr, hn⟩ := (History.mem_andThen_iff.mp hc).resolve_left hh
    have ha := hm.agrees hs hh
    have hk := (hm.traced s).classifier_eq_some hs
    rw [hr] at ha hk
    rw [bind_of_returned f hr, bind_of_returned f ha]
    exact (hf a).forks hk hn

theorem ending {m' : Run Live β} {h : History Live} (g : Outcome α → Outcome β)
    (hg : ∀ s, m' s = (g (m s).1, (m s).2)) (hm : Parts k l c m h) : Parts k l c m' h := by
  refine ⟨hm.toAgrees.ending g hg, fun s => ?_, fun {s} hs hc => ?_⟩
  · rw [hg]
    exact hm.grows s
  · rw [hg, hg]
    exact hm.forks hs hc

/-- **What operations do** comes apart where the cause is judged. -/
theorem tracing (hl : k.ContraryAt l c) : Tracing (@Parts k l c) where
  pure a := of_silent ((Agrees.tracing hl).pure a) .refl
  throw d := of_silent ((Agrees.tracing hl).throw d) .refl
  panic text := of_silent ((Agrees.tracing hl).panic text) .refl
  fresh := of_silent (Agrees.tracing hl).fresh fun _ => ⟨List.prefix_rfl, List.suffix_rfl⟩
  emit e := of_silent ((Agrees.tracing hl).emit e) fun s => .reporting s e
  hold a := of_silent ((Agrees.tracing hl).hold a) fun s => .holding s a
  held := of_silent (Agrees.tracing hl).held .refl
  install := install hl
  capture := capture hl
  active := hold_active hl
  judge d := hold_verdict hl id ((Agrees.tracing hl).judge d) d.judge_apply fun h => nomatch h
  ofCause d :=
    hold_verdict hl (fun fatal => if fatal then .error ⟨d⟩ else .ok ⟨d⟩)
      ((Agrees.tracing hl).ofCause d) (Captured.ofCause_apply d) fun h => nomatch h
  bind := bind
  ending := ending

end Run.Parts

/-- No document is read. -/
def Operation.readsNone : Operation → Bool
  | decode _ _ => false
  | _ => true

namespace Program

variable {p : Program} {s : Session Live}

theorem parts_run (hp : p.Calls (·.readsNone = true)) (hl : k.ContraryAt l c) :
    Run.Parts k l c p.run p.history := by
  refine p.tracing_run (Run.Parts.tracing hl) (hp.mono fun op hop => ?_)
  cases op with
  | decode schema bytes => cases hop
  | _ => trivial

/-- **A history names exactly the judgements.** Let a program read no documents, and let a
classifier be in effect. The history of the program judges a cause just where the contrary verdict
on that one cause makes it another run: one that ends otherwise, or leaves another session. -/
theorem judged_mem_history_iff (hp : p.Calls (·.readsNone = true)) (hs : s.classifier = some k)
    (hl : k.ContraryAt l c) : .judged c ∈ p.history s ↔
      p.run (s.judgedBy l) ≠ ((p.run s).1, (p.run s).2.judgedBy l) := by
  constructor
  · intro hc he
    have hf := (parts_run hp hl).forks hs hc
    rw [he] at hf
    exact hf.not_judgedBy _ _
  · exact fun hne => Classical.byContradiction fun hc => hne (p.run_judgedBy hl hs hc)

/-- To make a failure of a cause is to depend on the verdict on it. -/
example (hl : k.ContraryAt l c) (hs : s.classifier = some k) :
    let p : Program := .call (.fail c) (.refuse c) (.refuse c) (.refuse c)
    p.run (s.judgedBy l) ≠ ((p.run s).1, (p.run s).2.judgedBy l) := by
  intro p
  have hp : p.Calls (·.readsNone = true) := ⟨rfl, trivial, trivial, trivial⟩
  have hc : .judged c ∈ p.history s := History.mem_andThen_iff.mpr (.inl List.mem_cons_self)
  exact (judged_mem_history_iff hp hs hl).mp hc

/-- **The history is the least list of steps**: whatever steps a run takes without asking for the
classifier, they have every judgement of the history. -/
theorem judged_mem_of_takes (hp : p.Calls (·.readsNone = true)) (hs : s.classifier = some k)
    {steps : List Step} (ht : p.run.Takes s steps) (hasked : .asked ∉ steps)
    (hc : .judged c ∈ p.history s) : .judged c ∈ steps := by
  obtain ⟨l, hl⟩ := k.exists_contraryAt c
  refine Classical.byContradiction fun hn => (judged_mem_history_iff hp hs hl).mp hc ?_
  exact ht.apply_judgedBy hl hs hasked hn

end Program

end Fallible
