import Fallible.Proofs.Config.Installed

/-!
# Installing is all or nothing

Installing the configuration of a host ends in one of five ways: nothing stands where the
configuration is looked for, what stands there is no text, the text is no configuration, there is a
classifier in effect already, or the policy of the configuration is put into effect. The host and
the classifier tell which, and all but the last leave the classifier as it is.

So of all the installations of a run, by code or by configurations, at most one succeeds, whatever
happens to the host in between.

## Main definitions

* `Config.Ends`: the five ways in which installing ends
* `Installation`, `Installations`: the installations of a run, by code or by configurations

## Main results

* `Config.exists_ends`: installing ends in one of the five ways
* `Installations.count_le_one`: at most one installation of a run succeeds
* `Config.install_all_or_nothing`: which of the five ways, and whole runs
-/

namespace Fallible

namespace Config

variable {σ : Type}

/-! ## Installing -/

/-- The five ways in which installing ends, each with its answer and with the session that it
leaves. -/
inductive Ends (h : Host) (s : Session σ) : Except Error (Option Policy) → Session σ → Prop
  | nothing (hn : ∀ path node, ¬Stands h path node) :
      Ends h s (.ok none) (s.reporting .unconfigured)
  | unreadable {path : String} {node : Node} {fault : ReadFault} (hn : Stands h path node)
      (ht : ∀ text, node ≠ textFile text) :
      Ends h s (.error (.read path fault)) (s.reporting .unreadable)
  | unparsable {path text : String} {e : ParseError} (hn : Stands h path (textFile text))
      (hp : parse text = .error e) :
      Ends h s (.error (.parse path e)) (s.reporting .incomprehensible)
  | late {path text : String} {config : Config} {k : Classifier}
      (hn : Stands h path (textFile text)) (hp : parse text = .ok config)
      (hs : s.classifier = some k) : Ends h s (.error (.install .alreadyActive)) s
  | installed {path text : String} {config : Config} (hn : Stands h path (textFile text))
      (hp : parse text = .ok config) (hs : s.classifier = none) :
      Ends h s (.ok (some config.policy))
        ({ s with classifier := some config.policy.classifier }.reporting
          (.installed config.policy.classifier))

/-- **Installing ends** in one of the five ways. -/
theorem exists_ends (h : Host) (s : Session σ) :
    ∃ r s', install h s = (.returned r, s') ∧ Ends h s r s' := by
  obtain hn | ⟨path, node, hn, ht⟩ | ⟨path, text, hn⟩ := stands_cases h
  · exact ⟨_, _, Run.bind_of_returned _ (load_of_nothing hn), .nothing hn⟩
  · obtain ⟨fault, hl⟩ := load_of_unreadable (s := s) hn ht
    exact ⟨_, _, Run.bind_of_returned _ hl, .unreadable hn ht⟩
  · cases hp : parse text with
    | error e =>
      have hl := load_of_text (s := s) hn
      rw [hp] at hl
      exact ⟨_, _, Run.bind_of_returned _ hl, .unparsable hn hp⟩
    | ok config =>
      have hi := install_of_text (s := s) hn hp
      cases hs : s.classifier with
      | some k =>
        rw [hs] at hi
        exact ⟨_, _, hi, .late hn hp hs⟩
      | none =>
        rw [hs] at hi
        exact ⟨_, _, hi, .installed hn hp hs⟩

namespace Ends

variable {h : Host} {s s' : Session σ} {r : Except Error (Option Policy)}

/-- Where a node stands, that is the node which installing came to, if it came to one. -/
theorem exists_of_stands (he : Ends h s r s') {path : String} {node : Node}
    (hn : Stands h path node) :
    ((∀ text, node ≠ textFile text) ∧ ∃ fault, r = .error (.read path fault)) ∨
    ∃ text, node = textFile text ∧ match parse text, s.classifier with
      | .error e, _ => r = .error (.parse path e)
      | .ok _, some _ => r = .error (.install .alreadyActive)
      | .ok config, none => r = .ok (some config.policy) := by
  cases he with
  | nothing hno => exact absurd hn (hno path node)
  | unreadable hn' ht =>
    obtain ⟨rfl, rfl⟩ := hn'.iff_eq.mp hn
    exact .inl ⟨ht, _, rfl⟩
  | unparsable hn' hp =>
    obtain ⟨rfl, rfl⟩ := hn'.iff_eq.mp hn
    exact .inr ⟨_, rfl, by rw [hp]⟩
  | late hn' hp hs =>
    obtain ⟨rfl, rfl⟩ := hn'.iff_eq.mp hn
    exact .inr ⟨_, rfl, by rw [hp, hs]⟩
  | installed hn' hp hs =>
    obtain ⟨rfl, rfl⟩ := hn'.iff_eq.mp hn
    exact .inr ⟨_, rfl, by rw [hp, hs]⟩

/-- Where a text stands, how installing ends is told by whether the text is a configuration and by
whether there is a classifier. -/
theorem eq_of_text (he : Ends h s r s') {path text : String}
    (hn : Stands h path (textFile text)) :
    match parse text, s.classifier with
    | .error e, _ => r = .error (.parse path e)
    | .ok _, some _ => r = .error (.install .alreadyActive)
    | .ok config, none => r = .ok (some config.policy) := by
  obtain ⟨ht, -⟩ | ⟨other, ht, hr⟩ := he.exists_of_stands hn
  · exact absurd rfl (ht text)
  · obtain rfl := textFile_inj.mp ht
    exact hr

/-- Which way it is: each has a condition of its own on the host and on the classifier. -/
theorem iffs (he : Ends h s r s') :
    (r = .ok none ↔ ∀ path node, ¬Stands h path node) ∧
    (∀ path, (∃ fault, r = .error (.read path fault)) ↔
      ∃ node, Stands h path node ∧ ∀ text, node ≠ textFile text) ∧
    (∀ path e, r = .error (.parse path e) ↔
      ∃ text, Stands h path (textFile text) ∧ parse text = .error e) ∧
    (r = .error (.install .alreadyActive) ↔
      s.classifier ≠ none ∧ ∃ path text config,
        Stands h path (textFile text) ∧ parse text = .ok config) ∧
    ∀ p, r = .ok (some p) ↔
      s.classifier = none ∧ ∃ path text config,
        Stands h path (textFile text) ∧ parse text = .ok config ∧ p = config.policy := by
  refine ⟨⟨fun hr => ?_, fun hn => ?_⟩, fun path => ⟨?_, ?_⟩, fun path e => ⟨fun hr => ?_, ?_⟩,
    ⟨fun hr => ?_, ?_⟩, fun p => ⟨fun hr => ?_, ?_⟩⟩
  -- nothing stands: in every other way something does
  · cases he with
    | nothing hn => exact hn
    | unreadable | unparsable | late | installed => cases hr
  · cases he with
    | nothing => rfl
    | unreadable hn' | unparsable hn' | late hn' | installed hn' => exact absurd hn' (hn _ _)
  -- what stands is no text: in the last three ways it is one
  · rintro ⟨fault, hr⟩
    cases he with
    | unreadable hn ht =>
      cases hr
      exact ⟨_, hn, ht⟩
    | nothing | unparsable | late | installed => cases hr
  · rintro ⟨node, hn, ht⟩
    obtain ⟨-, hr⟩ | ⟨text, rfl, -⟩ := he.exists_of_stands hn
    · exact hr
    · exact absurd rfl (ht text)
  -- the text is no configuration
  · cases he with
    | unparsable hn hp =>
      cases hr
      exact ⟨_, hn, hp⟩
    | nothing | unreadable | late | installed => cases hr
  · rintro ⟨text, hn, hp⟩
    have hr := he.eq_of_text hn
    rwa [hp] at hr
  -- it is one, but there is a classifier
  · cases he with
    | late hn hp hs => exact ⟨by simp [hs], _, _, _, hn, hp⟩
    | nothing | unreadable | unparsable | installed => cases hr
  · rintro ⟨hs, path, text, config, hn, hp⟩
    obtain ⟨k, hk⟩ := Option.ne_none_iff_exists'.mp hs
    have hr := he.eq_of_text hn
    rwa [hp, hk] at hr
  -- it is one, and there is none
  · cases he with
    | installed hn hp hs =>
      cases hr
      exact ⟨hs, _, _, _, hn, hp, rfl⟩
    | nothing | unreadable | unparsable | late => cases hr
  · rintro ⟨hs, path, text, config, hn, hp, rfl⟩
    have hr := he.eq_of_text hn
    rwa [hp, hs] at hr

/-- Only the last way changes the classifier. -/
theorem classifier_eq (he : Ends h s r s') :
    (∀ p, r = .ok (some p) → s'.classifier = some p.classifier) ∧
      ((∀ p, r ≠ .ok (some p)) → s'.classifier = s.classifier) := by
  cases he with
  | installed hn hp hs =>
    refine ⟨fun p hr => ?_, fun hr => absurd rfl (hr _)⟩
    cases hr
    rfl
  | nothing | unreadable | unparsable | late => exact ⟨fun p hr => (nomatch hr), fun _ => rfl⟩

end Ends

end Config

/-! ## Installations of a run -/

/-- A way to install a classifier: by code, or by the configuration of a host. -/
inductive Installation where
  | code (k : Classifier)
  | configuration (h : Host)

section Installing

variable {σ : Type} {s t : Session σ}

/-- Installs, and tells which classifier was put into effect, if one was. -/
def Installation.run : Installation → Run σ (Option Classifier)
  | code k => do
    match ← k.install with
    | .ok () => return some k
    | .error _ => return none
  | configuration h => do
    match ← Config.install h with
    | .ok (some p) => return some p.classifier
    | _ => return none

/-- **One installation** succeeds only where there is no classifier, which is then the one that was
installed; where it does not succeed, the classifier is left as it is. -/
theorem Installation.exists_run (i : Installation) (s : Session σ) :
    ∃ r s', i.run s = (.returned r, s') ∧
      ((∃ k, r = some k ∧ s.classifier = none ∧ s'.classifier = some k) ∨
        (r = none ∧ s'.classifier = s.classifier)) := by
  cases i with
  | code k =>
    have hk := Classifier.install_apply k s
    cases hs : s.classifier with
    | some l =>
      rw [hs] at hk
      exact ⟨none, s, Run.bind_of_returned _ hk, .inr ⟨rfl, hs⟩⟩
    | none =>
      rw [hs] at hk
      exact ⟨some k, _, Run.bind_of_returned _ hk, .inl ⟨k, rfl, rfl, rfl⟩⟩
  | configuration h =>
    obtain ⟨r, s', hi, he⟩ := Config.exists_ends h s
    cases he with
    | installed hn hp hs =>
      exact ⟨_, _, Run.bind_of_returned _ hi, .inl ⟨_, rfl, hs, rfl⟩⟩
    | nothing | unreadable | unparsable | late =>
      exact ⟨_, _, Run.bind_of_returned _ hi, .inr ⟨rfl, rfl⟩⟩

/-- The installations of a run from one session to another, each with its answer. Each may be from
another host, and anything may be run before, between and after them. -/
inductive Installations : Session σ → List (Option Classifier) → Session σ → Prop
  | done (s : Session σ) : Installations s [] s
  | install {s s' t : Session σ} {r : Option Classifier} {rs : List (Option Classifier)}
      (i : Installation) (hi : i.run s = (.returned r, s')) (hr : Installations s' rs t) :
      Installations s (r :: rs) t
  | other {s s' t : Session σ} {rs : List (Option Classifier)} (hs : s.Reaches s')
      (hr : Installations s' rs t) : Installations s rs t

namespace Installations

variable {rs : List (Option Classifier)}

/-- Where there is a classifier, no installation succeeds, and it stays. -/
theorem eq_none_of_classifier (hr : Installations s rs t) {k : Classifier}
    (hs : s.classifier = some k) : (∀ r ∈ rs, r = none) ∧ t.classifier = some k := by
  induction hr with
  | done s => exact ⟨fun r hr => (nomatch hr), hs⟩
  | @install s s' t r rs i hi hr ih =>
    obtain ⟨r', s'', hi', ⟨l, -, hn, -⟩ | ⟨rfl, hk⟩⟩ := i.exists_run s
    · rw [hs] at hn
      cases hn
    · rw [hi] at hi'
      cases hi'
      obtain ⟨hall, ht⟩ := ih (hk.trans hs)
      exact ⟨List.forall_mem_cons.mpr ⟨rfl, hall⟩, ht⟩
  | other hs' hr ih => exact ih (hs'.classifier_eq hs)

/-- **At most one installation succeeds**, and its classifier stays. -/
theorem count_le_one (hr : Installations s rs t) :
    rs.countP Option.isSome ≤ 1 ∧
      ∀ k, some k ∈ rs → s.classifier = none ∧ t.classifier = some k := by
  induction hr with
  | done s => exact ⟨by simp, fun k hk => nomatch hk⟩
  | @install s s' t r rs i hi hr ih =>
    obtain ⟨r', s'', hi', ⟨k, rfl, hn, hk⟩ | ⟨rfl, hk⟩⟩ := i.exists_run s
    · rw [hi] at hi'
      cases hi'
      -- this one succeeds, and so no later one does
      obtain ⟨hall, ht⟩ := hr.eq_none_of_classifier hk
      have hz : rs.countP Option.isSome = 0 :=
        List.countP_eq_zero.mpr fun r hr => by simp [hall r hr]
      refine ⟨by simp [hz], fun l hl => ?_⟩
      obtain hl | hl := List.mem_cons.mp hl
      · cases hl
        exact ⟨hn, ht⟩
      · cases hall _ hl
    · rw [hi] at hi'
      cases hi'
      obtain ⟨hc, hm⟩ := ih
      refine ⟨by simpa using hc, fun l hl => ?_⟩
      obtain ⟨hl, ht⟩ := hm l (by simpa using hl)
      exact ⟨hk.symm.trans hl, ht⟩
  | @other s s' t rs hs hr ih =>
    refine ⟨ih.1, fun k hk => ?_⟩
    obtain ⟨hn, ht⟩ := ih.2 k hk
    refine ⟨?_, ht⟩
    -- a classifier in effect before would still be in effect
    cases hc : s.classifier with
    | none => rfl
    | some l =>
      rw [hs.classifier_eq hc] at hn
      cases hn

end Installations

end Installing

/-- **Installing is all or nothing.** The configuration is looked for at the path that the
environment gives, unless it is empty, or else in the directory for configurations, if there is one.

Installing always ends, and in one of five ways. There is no configuration just if nothing stands
where it is looked for. There is an error of reading, with this path, just if what stands there is
no file that holds a text; an error of parsing, with this path, just if the text is no
configuration; an error of installing, without a path, just if it is one and there was a classifier
in effect; and its policy is installed just if it is one and there was none. The classifier in
effect is then the one of this policy, and in the other four ways the one from before.

Of the installations of a run, by code or by the configurations of whatever hosts, with anything run
in between, each leaves the classifier alone unless it succeeds, and at most one succeeds. -/
theorem Config.install_all_or_nothing {σ : Type} (h : Host) (s : Session σ) :
    (∀ given, h.lookup "RECOURSE_CONFIG" = some given → given ≠ "" → path? h = some given) ∧
    ((∀ given, h.lookup "RECOURSE_CONFIG" = some given → given = "") →
      path? h = (directory? h).map fun d => Path.join (Path.join d "recourse") "config.toml") ∧
    (∃ r s', install h s = (.returned r, s') ∧
      (r = .ok none ↔ ∀ path node, ¬Stands h path node) ∧
      (∀ path, (∃ fault, r = .error (.read path fault)) ↔
        ∃ node, Stands h path node ∧ ∀ text, node ≠ textFile text) ∧
      (∀ path e, r = .error (.parse path e) ↔
        ∃ text, Stands h path (textFile text) ∧ parse text = .error e) ∧
      (r = .error (.install .alreadyActive) ↔
        s.classifier ≠ none ∧ ∃ path text config,
          Stands h path (textFile text) ∧ parse text = .ok config) ∧
      (∀ p, r = .ok (some p) ↔
        s.classifier = none ∧ ∃ path text config,
          Stands h path (textFile text) ∧ parse text = .ok config ∧ p = config.policy) ∧
      (∀ path fault e, (Error.read path fault).path? = some path ∧
        (Error.parse path e).path? = some path ∧ (Error.install .alreadyActive).path? = none) ∧
      (∀ p, r = .ok (some p) → s'.classifier = some p.classifier) ∧
      ((∀ p, r ≠ .ok (some p)) → s'.classifier = s.classifier)) ∧
    (∀ (i : Installation) (t t' : Session σ),
      i.run t = (.returned none, t') → t'.classifier = t.classifier) ∧
    ∀ (t t' : Session σ) rs, Installations t rs t' →
      rs.countP Option.isSome ≤ 1 ∧
        ∀ k, some k ∈ rs → t.classifier = none ∧ t'.classifier = some k := by
  refine ⟨?_, ?_, ?_, ?_, ?_⟩
  · intro given hg hne
    rw [path?, pathVariable, hg]
    simp [Option.filter, hne]
  · intro hg
    have hf : (h.lookup pathVariable).filter (!·.isEmpty) = none :=
      Option.filter_eq_none_iff.mpr fun given hv => by simp [hg given hv]
    rw [path?, hf]
    rfl
  · obtain ⟨r, s', hi, he⟩ := exists_ends h s
    obtain ⟨hnone, hread, hparse, hlate, hdone⟩ := he.iffs
    exact ⟨r, s', hi, hnone, hread, hparse, hlate, hdone, fun _ _ _ => ⟨rfl, rfl, rfl⟩,
      he.classifier_eq⟩
  · intro i t t' hi
    obtain ⟨r, t'', hi', ⟨k, rfl, -, -⟩ | ⟨rfl, hk⟩⟩ := i.exists_run t
    · rw [hi] at hi'
      cases hi'
    · rw [hi] at hi'
      cases hi'
      exact hk
  · exact fun t t' rs hr => hr.count_le_one

/-- A configuration is installed, and an installation by code comes too late. -/
theorem Config.code_after_configuration :
    let text := "[fatal]\nkinds = [\"Assertion\"]\n"
    let h : Host :=
      { lookup := fun name => if name = "RECOURSE_CONFIG" then some "/c.toml" else none
        files := [(["c.toml"], textFile text)]
        directory := [] }
    let p : Policy := Config.policy { fatal := some { kinds := [.assertion] } }
    ∃ t : Session Unit, install h (Session.start ()) = (.returned (.ok (some p)), t) ∧
      Installations (Session.start ()) [some p.classifier, none] t ∧
      t.classifier = some p.classifier := by
  intro text h p
  have hn : Stands h "/c.toml" (textFile text) := by
    constructor
    · rfl
    · rfl
  have hp : parse text = .ok { fatal := some { kinds := [.assertion] } } :=
    Decode.toOption_eq_some_iff.mp (by decide +kernel)
  obtain ⟨-, -, ⟨r, s', hi, -, -, -, -, hdone, -, hs', -⟩, -, hruns⟩ :=
    install_all_or_nothing h (Session.start ())
  obtain rfl := (hdone p).mpr ⟨rfl, "/c.toml", text, _, hn, hp, rfl⟩
  have hfirst : (Installation.configuration h).run (Session.start ()) =
      (.returned (some p.classifier), s') := Run.bind_of_returned _ hi
  have hsecond : (Installation.code (.byMessage "disk")).run s' = (.returned none, s') := by
    have hk := Classifier.install_apply (.byMessage "disk") s'
    rw [hs' p rfl] at hk
    exact Run.bind_of_returned _ hk
  have hrun : Installations (Session.start ()) [some p.classifier, none] s' :=
    .install _ hfirst (.install _ hsecond (.done s'))
  obtain ⟨-, hstays⟩ := hruns _ _ _ hrun
  exact ⟨s', hi, hrun, (hstays p.classifier List.mem_cons_self).2⟩

end Fallible
