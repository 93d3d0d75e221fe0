import Fallible.Proofs.Pipeline.Basic
import Fallible.Proofs.Unwinding.Alike

/-!
# The trace accounts for captures

The functions of a pipeline that report nothing themselves leave the events to the library, and so
the events of a run tell what the stages captured: one event for each cause that was captured, in
the order of the stages, and at most one for a cause that was fatal, which is then the last. Passing
on, giving an attempt and unwinding otherwise leave no event.

Where a run ends in a failure, the cause has been there from the start, or in an attempt that a
function answered with, or it is the last one that was captured.

## Main definitions

* `Run.Mute`, `Pipeline.Mute`: reporting nothing, and having only functions that report nothing
* `Stage.upshot`: what a stage comes to before it captures anything
* `Pipeline.judged`, `Pipeline.given`: the causes that stages handed over, each with the verdict,
  and the causes in the attempts that functions answered with
* `Account`: what the events of a run tell

## Main results

* `Stage.run_eq`: a stage comes to its upshot and settles it
* `Account.andThen`: the account of a stage and that of the stages after it
* `Pipeline.events_account`: the events of a pipeline tell what was captured
-/

namespace Fallible

variable {σ α β : Type}

/-! ## Runs that report nothing -/

/-- Reporting nothing, in whatever session. -/
def Run.Mute (m : Run σ α) : Prop :=
  ∀ s, (m s).2.events = s.events

namespace Run.Mute

theorem pure (a : α) : Mute (Pure.pure a : Run σ α) :=
  fun _ => rfl

theorem bind {m : Run σ α} {f : α → Run σ β} (hm : m.Mute) (hf : ∀ a, (f a).Mute) :
    (m >>= f).Mute := by
  intro s
  have hs : (m s).2.events = s.events := hm s
  rw [Run.bind_apply]
  rcases hr : m s with ⟨a | c | text, s'⟩ <;> rw [hr] at hs
  · exact (hf a s').trans hs
  · exact hs
  · exact hs

theorem map (f : α → β) {m : Run σ α} (hm : m.Mute) : (f <$> m).Mute :=
  hm.bind fun a => pure (f a)

theorem raise (kind : Kind) (message : Option String) :
    (Cause.raise kind message : Run σ Cause).Mute :=
  fun _ => rfl

end Run.Mute

/-! ## Stages -/

namespace Stage

/-- None of the functions of a stage reports anything. -/
def Mute : Stage σ α β → Prop
  | handle | failed => True
  | map f => ∀ a, (f a).Mute
  | flatMap f => ∀ a, (f a).Mute
  | filter _ p => ∀ a, (p a).Mute
  | filterOr p error => (∀ a, (p a).Mute) ∧ ∀ a, (error a).Mute
  | mapFailure f => ∀ c, (f c).Mute
  | recover _ f => ∀ c, (f c).Mute
  | recoverWith _ f => ∀ c, (f c).Mute
  | orElse supplier => supplier.Mute
  | transform f g => (∀ c, (f c).Mute) ∧ ∀ a, (g a).Mute
  | onSuccess consumer => ∀ a, (consumer a).Mute
  | onFailure consumer => ∀ c, (consumer c).Mute

/-- Calls a stage on an attempt, up to where it would capture a cause. -/
def upshot : Stage σ α β → Attempt α → Run σ (Except Cause (Upshot (Attempt β)))
  | handle, t => return .ok (.kept t.handle)
  | map f, t => .ok <$> (CapturingCall.map t f).upshot
  | flatMap f, t => .ok <$> (CapturingCall.flatMap t f).upshot
  | filter shown p, t => .ok <$> (CapturingCall.filter shown t p).upshot
  | filterOr p error, t => .ok <$> (CapturingCall.filterOr t p error).upshot
  | mapFailure f, t => .ok <$> (CapturingCall.mapFailure t f).upshot
  | recover kind f, t => .ok <$> (CapturingCall.recover t kind f).upshot
  | recoverWith kind f, t => .ok <$> (CapturingCall.recoverWith t kind f).upshot
  | orElse supplier, t => .ok <$> (CapturingCall.orElse t supplier).upshot
  | transform f g, t => .ok <$> (CapturingCall.transform t f g).upshot
  | failed, t => .ok <$> (CapturingCall.failed t).upshot
  | onSuccess consumer, t => Except.map .kept <$> t.onSuccess consumer
  | onFailure consumer, t => Except.map .kept <$> t.onFailure consumer

/-- Captures a cause that was handed over. -/
def settle : Except Cause (Upshot (Attempt β)) → Run σ (Except Cause (Attempt β))
  | .ok u => .ok <$> u.settle .failure
  | .error c => return .error c

/-- The cause that a stage hands over to be captured, with whether it is fatal by the classifier
then in effect. -/
def judged (stage : Stage σ α β) (t : Attempt α) (s : Session σ) : Option (Cause × Bool) :=
  match stage.upshot t s with
  | (.returned (.ok (.handed c)), s') => some (c, s'.inEffect.isFatal c)
  | _ => none

/-- The cause of a failure that a function of the stage answered with. -/
def given (stage : Stage σ α β) (t : Attempt α) (s : Session σ) : Option Captured :=
  match stage.upshot t s with
  | (.returned (.ok (.given (.failure d))), _) => some d
  | _ => none

section Upshots

theorem ok_map_run (q : CapturingCall σ (Attempt β)) (hq : q.ofCaptured = .failure) :
    .ok <$> q.run = (.ok <$> q.upshot) >>= settle := by
  rw [q.run_eq, hq, map_bind, bind_map_left]
  rfl

/-- **What a stage does**: it comes to its upshot, and a cause that it hands over is captured. -/
theorem run_eq (stage : Stage σ α β) (t : Attempt α) : stage.run t = stage.upshot t >>= settle := by
  -- an observer captures nothing
  have observes (m : Run σ (Except Cause (Attempt β))) : m = Except.map .kept <$> m >>= settle := by
    rw [bind_map_left]
    refine (bind_pure m).symm.trans (bind_congr fun r => ?_)
    cases r <;> rfl
  cases stage with
  | handle => rfl
  | map f => exact ok_map_run (.map t f) rfl
  | flatMap f => exact ok_map_run (.flatMap t f) rfl
  | filter shown p => exact ok_map_run (.filter shown t p) rfl
  | filterOr p error => exact ok_map_run (.filterOr t p error) rfl
  | mapFailure f => exact ok_map_run (.mapFailure t f) rfl
  | recover kind f => exact ok_map_run (.recover t kind f) rfl
  | recoverWith kind f => exact ok_map_run (.recoverWith t kind f) rfl
  | orElse supplier => exact ok_map_run (.orElse t supplier) rfl
  | transform f g => exact ok_map_run (.transform t f g) rfl
  | failed => exact ok_map_run (.failed t) rfl
  | onSuccess consumer | onFailure consumer => exact observes _

section Settling

variable {s : Session σ} {c : Cause}

/-- A non-fatal cause that is handed over is reported and becomes the cause of a failure. -/
theorem settle_of_not_fatal (h : s.inEffect.isFatal c = false) :
    (settle (.ok (.handed c)) : Run σ (Except Cause (Attempt β))) s =
      (.returned (.ok (.failure ⟨c⟩)), s.decided.reporting (.captured c)) :=
  Run.map_of_returned _ (Run.map_of_returned _ (Captured.capture_of_not_fatal h))

/-- A fatal cause that is handed over is reported and unwinds. -/
theorem settle_of_fatal (h : s.inEffect.isFatal c = true) :
    (settle (.ok (.handed c)) : Run σ (Except Cause (Attempt β))) s =
      (.thrown c, s.decided.reporting (.escaping c)) := by
  rw [settle, Upshot.settle, Run.map_apply, Run.map_apply, Captured.capture_of_fatal h]

end Settling

/-- Where a filter reports nothing. -/
theorem mute_screened {t : Attempt α} {p : Predicate σ α} {error : α → Run σ Cause}
    (hp : ∀ a, (p a).Mute) (herror : ∀ a, (error a).Mute) :
    (CapturingCall.screened t p error).Mute := by
  cases t with
  | failure d => exact .pure _
  | success a =>
    refine (hp a).bind fun r => ?_
    rcases r with c | _ | _
    · exact .pure _
    · exact (herror a).map _
    · exact .pure _

/-- A stage reports nothing itself before it captures a cause. -/
theorem Mute.upshot {stage : Stage σ α β} (h : stage.Mute) (t : Attempt α) :
    (stage.upshot t).Mute := by
  cases stage with
  | handle => exact .pure _
  | map f | flatMap f =>
    cases t with
    | success a => exact ((h a).map _).map _
    | failure d => exact .pure _
  | filter shown p => exact (mute_screened h fun a => .raise _ _).map _
  | filterOr p error => exact (mute_screened h.1 h.2).map _
  | mapFailure f =>
    cases t with
    | success a => exact .pure _
    | failure d => exact ((h d.cause).map _).map _
  | recover kind f | recoverWith kind f =>
    cases t with
    | success a => exact .pure _
    | failure d =>
      refine Run.Mute.map _ ?_
      rw [CapturingCall.upshot]
      split
      · exact (h d.cause).map _
      · exact .pure _
  | orElse supplier =>
    cases t with
    | success a => exact .pure _
    | failure d => exact (Run.Mute.map _ h).map _
  | transform f g =>
    cases t with
    | success a => exact ((h.2 a).map _).map _
    | failure d => exact ((h.1 d.cause).map _).map _
  | failed =>
    cases t with
    | success a => exact (Run.Mute.map _ (.raise _ _)).map _
    | failure d => exact .pure _
  | onSuccess consumer =>
    cases t with
    | success a => exact ((h a).map _).map _
    | failure d => exact .pure _
  | onFailure consumer =>
    cases t with
    | success a => exact .pure _
    | failure d => exact ((h d.cause).map _).map _

/-- What is handed over or given, or is a success, is not kept as a failure. -/
theorem map_ne_kept {γ : Type} {m : Run σ γ} {f : γ → Upshot (Attempt β)} {s s' : Session σ}
    {d : Captured} (hf : ∀ r, f r ≠ .kept (.failure d)) :
    (.ok <$> f <$> m : Run σ (Except Cause _)) s ≠ (.returned (.ok (.kept (.failure d))), s') := by
  intro h
  obtain ⟨u, hu, hk⟩ := CapturingCall.exists_of_map_returned h
  obtain ⟨r, -, rfl⟩ := CapturingCall.exists_of_map_returned hu
  exact hf r (Except.ok.inj hk)

theorem handed_ne_kept (d : Captured) (c : Cause) :
    (.handed c : Upshot (Attempt β)) ≠ .kept (.failure d) := by
  intro h
  cases h

theorem ofAnswer_ne_kept (d : Captured) (r : Except Cause β) :
    Upshot.ofAnswer Attempt.success r ≠ .kept (.failure d) := by
  cases r <;> nofun

theorem ofGiven_ne_kept (d : Captured) (r : Except Cause (Attempt β)) :
    Upshot.ofGiven r ≠ .kept (.failure d) := by
  cases r <;> nofun

/-- A filter keeps a failure only if it was called on it. -/
theorem eq_of_screened {t : Attempt α} {p : Predicate σ α} {error : α → Run σ Cause}
    {s s' : Session σ} {d : Captured}
    (h : CapturingCall.screened t p error s = (.returned (.kept (.failure d)), s')) :
    t = .failure d := by
  cases t with
  | failure c =>
    cases h
    rfl
  | success a =>
    rw [CapturingCall.screened, Run.bind_apply] at h
    rcases hp : p a s with ⟨(c | _ | _) | c | text, s₁⟩ <;> rw [hp] at h
    · cases h
    · obtain ⟨c, -, hc⟩ := CapturingCall.exists_of_map_returned h
      cases hc
    · cases h
    · cases h
    · cases h

/-- **A stage keeps a failure** only if it was called on it. -/
theorem eq_of_kept {stage : Stage σ α β} {t : Attempt α} {s s' : Session σ} {d : Captured}
    (h : stage.upshot t s = (.returned (.ok (.kept (.failure d))), s')) : t = .failure d := by
  cases stage with
  | handle =>
    cases t <;> cases h
    rfl
  | map f =>
    cases t with
    | success a => exact absurd h (map_ne_kept (ofAnswer_ne_kept d))
    | failure c =>
      cases h
      rfl
  | flatMap f =>
    cases t with
    | success a => exact absurd h (map_ne_kept (ofGiven_ne_kept d))
    | failure c =>
      cases h
      rfl
  | filter shown p | filterOr p error =>
    obtain ⟨u, hu, hk⟩ := CapturingCall.exists_of_map_returned h
    cases hk
    exact eq_of_screened hu
  | mapFailure f =>
    cases t with
    | success a => cases h
    | failure c => exact absurd h (map_ne_kept fun _ => handed_ne_kept d _)
  | recover kind f =>
    cases t with
    | success a => cases h
    | failure c =>
      rw [upshot, CapturingCall.upshot] at h
      split at h
      · exact absurd h (map_ne_kept (ofAnswer_ne_kept d))
      · cases h
        rfl
  | recoverWith kind f =>
    cases t with
    | success a => cases h
    | failure c =>
      rw [upshot, CapturingCall.upshot] at h
      split at h
      · exact absurd h (map_ne_kept (ofGiven_ne_kept d))
      · cases h
        rfl
  | orElse supplier =>
    cases t with
    | success a => cases h
    | failure c => exact absurd h (map_ne_kept (ofGiven_ne_kept d))
  | transform f g => cases t <;> exact absurd h (map_ne_kept (ofGiven_ne_kept d))
  | failed =>
    cases t with
    | success a => exact absurd h (map_ne_kept fun _ => handed_ne_kept d _)
    | failure c => cases h
  | onSuccess consumer =>
    obtain ⟨r, hr, hk⟩ := CapturingCall.exists_of_map_returned h
    cases r <;> cases hk
    exact (ObservingCall.eq_passed (.onSuccess t consumer) hr).symm
  | onFailure consumer =>
    obtain ⟨r, hr, hk⟩ := CapturingCall.exists_of_map_returned h
    cases r <;> cases hk
    exact (ObservingCall.eq_passed (.onFailure t consumer) hr).symm

end Upshots

end Stage

/-! ## Accounts -/

/-- What the events of a run tell, where the run is called on `t` in `s` and ends with `r`: of the
causes that were judged, all of `captured` were captured, in this order, and then `escaped`, if
there is one, was found fatal. -/
structure Account (t : Attempt α) (s : Session σ)
    (r : Outcome (Except Cause (Attempt β)) × Session σ) (judged : List (Cause × Bool))
    (given : List Captured) (captured : List Cause) (escaped : Option Cause) : Prop where
  judged_eq : judged = captured.map (·, false) ++ escaped.toList.map (·, true)
  events_eq : r.2.events = s.events ++ (captured.map .captured ++ escaped.toList.map .escaping)
  thrown : ∀ c, escaped = some c → r.1 = .thrown c
  /-- Where the cause of a failure comes from. -/
  origin : ∀ d, r.1 = .returned (.ok (.failure d)) →
    (t = .failure d ∧ captured = []) ∨ d ∈ given ∨ captured.getLast? = some d.cause

namespace Account

variable {γ : Type} {t : Attempt α} {s s' : Session σ}
  {r : Outcome (Except Cause (Attempt β)) × Session σ} {judged judged' : List (Cause × Bool)}
  {given given' : List Captured} {captured captured' : List Cause} {escaped escaped' : Option Cause}

/-- Where nothing is judged and nothing reported. -/
theorem of_events_eq (hs : r.2.events = s.events)
    (ho : ∀ d, r.1 = .returned (.ok (.failure d)) → t = .failure d ∨ d ∈ given) :
    Account t s r [] given [] none where
  judged_eq := rfl
  events_eq := hs.trans (List.append_nil _).symm
  thrown := nofun
  origin d hd := (ho d hd).imp (⟨·, rfl⟩) .inl

/-- **One run after another**: what comes first returned, so that its causes were captured. -/
theorem andThen {u : Attempt γ}
    (h : Account t s (.returned (.ok u), s') judged given captured escaped)
    (h' : Account u s' r judged' given' captured' escaped') :
    Account t s r (judged ++ judged') (given ++ given') (captured ++ captured') escaped' := by
  have he : escaped = none := by
    cases escaped with
    | none => rfl
    | some c => exact nomatch h.thrown c rfl
  subst he
  have hs : s'.events = s.events ++ (captured.map .captured ++ []) := h.events_eq
  constructor
  · rw [h.judged_eq, h'.judged_eq]
    simp
  · rw [h'.events_eq, hs]
    simp
  · exact h'.thrown
  · intro d hd
    rcases h'.origin d hd with ⟨rfl, rfl⟩ | hg | hl
    · -- what comes next passed the failure on, and so it comes from what comes first
      rw [List.append_nil]
      exact (h.origin d rfl).imp_right (.imp_left (List.mem_append_left _))
    · exact .inr (.inl (List.mem_append_right _ hg))
    · exact .inr (.inr (by rw [List.getLast?_append, hl, Option.some_or]))

/-- Where a run ends without an attempt, nothing else is called. -/
theorem stopped {r' : Outcome (Except Cause (Attempt γ)) × Session σ}
    (h : Account t s r judged given captured escaped) (hs : r'.2 = r.2)
    (ht : ∀ c, r.1 = .thrown c → r'.1 = .thrown c) (hr : ∀ u, r'.1 ≠ .returned (.ok u)) :
    Account t s r' judged given captured escaped where
  judged_eq := h.judged_eq
  events_eq := by rw [hs, h.events_eq]
  thrown c hc := ht c (h.thrown c hc)
  origin d hd := absurd hd (hr (.failure d))

end Account

/-- A cause that a stage hands over is captured and reported, or found fatal and reported. -/
theorem Account.exists_of_handed {t : Attempt α} {s s' : Session σ} (hs : s'.events = s.events)
    (c : Cause) :
    let r : Outcome (Except Cause (Attempt β)) × Session σ := Stage.settle (.ok (.handed c)) s'
    ∃ captured escaped, Account t s r [(c, s'.inEffect.isFatal c)] [] captured escaped := by
  intro r
  cases hc : s'.inEffect.isFatal c with
  | false =>
    have hr : r = (.returned (.ok (.failure ⟨c⟩)), s'.decided.reporting (.captured c)) :=
      Stage.settle_of_not_fatal hc
    rw [hr]
    refine ⟨[c], none, rfl, ?_, nofun, fun d hd => .inr (.inr ?_)⟩
    · exact congrArg (· ++ [Event.captured c]) hs
    · cases hd
      rfl
  | true =>
    have hr : r = (.thrown c, s'.decided.reporting (.escaping c)) := Stage.settle_of_fatal hc
    rw [hr]
    refine ⟨[], some c, rfl, ?_, ?_, nofun⟩
    · exact congrArg (· ++ [Event.escaping c]) hs
    · intro d hd
      cases hd
      rfl

/-- **The account of a stage**: at most one cause is judged, and nothing else is reported. -/
theorem Stage.Mute.exists_account {stage : Stage σ α β} (h : stage.Mute) (t : Attempt α)
    (s : Session σ) : ∃ captured escaped, Account t s (stage.run t s) (stage.judged t s).toList
      (stage.given t s).toList captured escaped := by
  have hs : (stage.upshot t s).2.events = s.events := h.upshot t s
  rw [stage.run_eq, Run.bind_apply, Stage.judged, Stage.given]
  -- only in the fourth case, where a cause is handed over, does the library report anything
  rcases hu : stage.upshot t s with ⟨(c | u | u | c) | c | text, s'⟩ <;> rw [hu] at hs
  · exact ⟨[], none, .of_events_eq hs nofun⟩
  · refine ⟨[], none, .of_events_eq hs fun d hd => .inl ?_⟩
    cases hd
    exact Stage.eq_of_kept hu
  · refine ⟨[], none, .of_events_eq hs fun d hd => .inr ?_⟩
    cases hd
    exact List.mem_singleton.mpr rfl
  · exact Account.exists_of_handed hs c
  · exact ⟨[], none, .of_events_eq hs nofun⟩
  · exact ⟨[], none, .of_events_eq hs nofun⟩

/-! ## Pipelines -/

namespace Pipeline

/-- None of the functions of a pipeline reports anything. -/
def Mute : {α β : Type} → Pipeline σ α β → Prop
  | _, _, done => True
  | _, _, andThen first rest => first.Mute ∧ rest.Mute

/-- What is told of the stages that are called, in order. -/
def collect {ε : Type}
    (told : {α β : Type} → Stage σ α β → Attempt α → Session σ → Option ε) :
    {α β : Type} → Pipeline σ α β → Attempt α → Session σ → List ε
  | _, _, done, _, _ => []
  | _, _, andThen first rest, t, s =>
    (told first t s).toList ++
      match first.run t s with
      | (.returned (.ok u), s') => collect told rest u s'
      | _ => []

/-- The causes that the stages hand over to be captured, each with whether it is fatal. -/
def judged (p : Pipeline σ α β) : Attempt α → Session σ → List (Cause × Bool) :=
  p.collect Stage.judged

/-- The causes of failures that the functions of the stages answer with. -/
def given (p : Pipeline σ α β) : Attempt α → Session σ → List Captured :=
  p.collect Stage.given

/-- **The account of a pipeline**, by induction on the pipeline: the account of its first stage and,
if that returns an attempt, that of the others. -/
theorem Mute.exists_account {p : Pipeline σ α β} (h : p.Mute) (t : Attempt α) (s : Session σ) :
    ∃ captured escaped,
      Account t s (p.run t s) (p.judged t s) (p.given t s) captured escaped := by
  induction p generalizing s with
  | done =>
    refine ⟨[], none, .of_events_eq rfl fun d hd => .inl ?_⟩
    cases hd
    rfl
  | andThen first rest ih =>
    obtain ⟨captured, escaped, hfirst⟩ := h.1.exists_account t s
    rw [run, judged, given, collect, collect, Run.bind_apply]
    rcases hr : first.run t s with ⟨(c | u) | c | text, s'⟩ <;> rw [hr] at hfirst
    · -- an observer answered with a cause, and nothing else is called
      simp only [List.append_nil]
      exact ⟨captured, escaped, hfirst.stopped rfl nofun nofun⟩
    · obtain ⟨captured', escaped', hrest⟩ := ih h.2 u s'
      exact ⟨_, _, hfirst.andThen hrest⟩
    · simp only [List.append_nil]
      exact ⟨captured, escaped, hfirst.stopped rfl (fun d hd => by cases hd; rfl) nofun⟩
    · simp only [List.append_nil]
      exact ⟨captured, escaped, hfirst.stopped rfl nofun nofun⟩

/-- Only the cause that escaped is an error. -/
theorem filter_level_error (captured : List Cause) (escaped : Option Cause) :
    (captured.map Event.captured ++ escaped.toList.map Event.escaping).filter
      (fun e => e.level = "ERROR") = escaped.toList.map .escaping := by
  have hc : (captured.map Event.captured).filter (fun e => e.level = "ERROR") = [] := by
    simp [List.filter_map, Function.comp_def, Event.level]
  rw [List.filter_append, hc, List.nil_append]
  cases escaped <;> rfl

/-- **The trace accounts for captures.** Let the functions of a pipeline report nothing.

* Every cause that the stages handed over was captured, but for the last one where that was fatal,
  and the events of the run are one for each of them, in that order.
* An event tells what its cause says: at the level `TRACE` for one that was captured, and at `ERROR`
  for the fatal one, which unwinds out of the pipeline. So there is at most one `ERROR`, and there
  is one if and only if some stage handed over a cause that was fatal.
* Where the pipeline ends in a failure, its cause is that of the attempt at the start, or that of an
  attempt that a function answered with, or the last one that was captured. -/
theorem events_account (p : Pipeline σ α β) (h : p.Mute) (t : Attempt α) (s : Session σ) :
    ∃ (captured : List Cause) (escaped : Option Cause) (emitted : List Event),
      p.judged t s = captured.map (·, false) ++ escaped.toList.map (·, true) ∧
      emitted = captured.map .captured ++ escaped.toList.map .escaping ∧
      (p.run t s).2.events = s.events ++ emitted ∧
      emitted.map (fun e => (e.level, e.fields)) =
        captured.map (fun c => ("TRACE", [("cause", display c)])) ++
          escaped.toList.map (fun c => ("ERROR", [("cause", display c)])) ∧
      (∀ c, escaped = some c → (p.run t s).1 = .thrown c) ∧
      (emitted.filter (·.level = "ERROR")).length ≤ 1 ∧
      ((∃ e ∈ emitted, e.level = "ERROR") ↔ ∃ c, (c, true) ∈ p.judged t s) ∧
      ∀ d, (p.run t s).1 = .returned (.ok (.failure d)) →
        t = .failure d ∨ d ∈ p.given t s ∨ captured.getLast? = some d.cause := by
  obtain ⟨captured, escaped, ha⟩ := h.exists_account t s
  refine ⟨captured, escaped, _, ha.judged_eq, rfl, ha.events_eq, ?_, ha.thrown, ?_, ?_, ?_⟩
  · rw [List.map_append, List.map_map, List.map_map]
    rfl
  · rw [filter_level_error]
    cases escaped <;> simp
  · rw [ha.judged_eq]
    cases escaped <;> simp [Event.level]
  · exact fun d hd => (ha.origin d hd).imp_left And.left

/-- A cause is captured, and then mapped to a fault, which escapes. -/
theorem mapped_fault_account :
    let io : Cause := { condition := ⟨0, .io, none⟩ }
    let fault : Cause := { condition := ⟨1, .linkage, none⟩ }
    let first : Stage Unit Unit Unit := .map fun _ => return .error io
    let second : Stage Unit Unit Unit := .mapFailure fun _ => return .ok fault
    let p : Pipeline Unit Unit Unit := .andThen first (.andThen second .done)
    let s : Session Unit := Session.start ()
    p.judged (.success ()) s = [(io, false), (fault, true)] ∧
      (p.run (.success ()) s).1 = .thrown fault ∧
      (p.run (.success ()) s).2.events = [.captured io, .escaping fault] := by
  intro io fault first second p s
  have hp : p.Mute := ⟨fun _ => .pure _, fun _ => .pure _, trivial⟩
  have hio : s.inEffect.isFatal io = false := by
    decide +kernel
  have hj : p.judged (.success ()) s = [(io, false), (fault, true)] := by
    let s' : Session Unit := s.decided.reporting (.captured io)
    have hfault : s'.inEffect.isFatal fault = true := by
      decide +kernel
    have h₁ : first.run (.success ()) s = (.returned (.ok (.failure ⟨io⟩)), s') := by
      rw [first.run_eq]
      exact Stage.settle_of_not_fatal hio
    have h₂ : second.run (.failure ⟨io⟩) s' =
        (.thrown fault, s'.decided.reporting (.escaping fault)) := by
      rw [second.run_eq]
      exact Stage.settle_of_fatal hfault
    have hj₁ : first.judged (.success ()) s = some (io, s.inEffect.isFatal io) := rfl
    have hj₂ : second.judged (.failure ⟨io⟩) s' = some (fault, s'.inEffect.isFatal fault) := rfl
    simp only [p, judged, collect, h₁, h₂, hj₁, hj₂, hio, hfault]
    rfl
  obtain ⟨captured, escaped, emitted, hj', rfl, he, -, ht, -⟩ := p.events_account hp (.success ()) s
  rw [hj] at hj'
  -- the verdicts tell which cause was captured and which one escaped
  obtain ⟨rfl, rfl⟩ : captured = [io] ∧ escaped = some fault := by
    cases escaped <;> rcases captured with _ | ⟨a, _ | ⟨b, rest⟩⟩ <;> simp_all
  exact ⟨hj, ht fault rfl, he⟩

end Pipeline

end Fallible
