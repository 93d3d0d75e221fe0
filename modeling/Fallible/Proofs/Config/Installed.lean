import Fallible.Proofs.Config.Edits
import Fallible.Proofs.Config.Loading
import Fallible.Proofs.History.Basic
import Fallible.Proofs.Unwinding.Capturing

/-!
# A configuration decides what unwinds

A configuration that is accepted tells a table of fields, each read from the entry of its name or
left at its default. The policy of this table is what installing puts into effect, and from then on
a cause that is handed over to be captured unwinds just if it descends from a kind that the policy
lists.

## Main definitions

* `Config.Told`, `Config.Fatal.Tells`: the fields that the entries of a table tell
* `Session.Reaches`: a session that a run leaves

## Main results

* `Config.tells_of_parse`: what a text that is accepted tells
* `Config.install_eq_ok`: which policy is installed
* `CapturingCall.thrown_iff`: what unwinds under a policy
* `Config.decides_unwinding`: from the text to what unwinds
-/

namespace Fallible

/-! ## Fields -/

namespace Config

/-- The entries of a value that describes a policy: those of a table, or the items of an array as
the fields in order. -/
def entries : Toml → List (String × Toml)
  | .table es => es
  | .array items => fields.zip items
  | _ => []

/-- A value is a truth value. -/
def IsBool (v : Toml) (b : Bool) : Prop :=
  v = .bool b

/-- A value lists the names of kinds. -/
def Names (v : Toml) (ks : List Kind) : Prop :=
  ∃ names : List String, v = .array (names.map .text) ∧ ks = names.map Kind.ofName

/-- A field is told by an entry of its name, or it has its default where there is no such entry. -/
def Told {α : Type} (es : List (String × Toml)) (name : String) (tells : Toml → α → Prop)
    (default field : α) : Prop :=
  (∃ v, (name, v) ∈ es ∧ tells v field) ∨ (∀ v, (name, v) ∉ es) ∧ field = default

/-- The fields that the entries of a table tell. -/
structure Fatal.Tells (es : List (String × Toml)) (f : Fatal) : Prop where
  includeDefaults : Told es "include_defaults" IsBool true f.includeDefaults
  kinds : Told es "kinds" Names [] f.kinds
  exclude : Told es "exclude" Names [] f.exclude

theorem isBool_of_bool {v : Toml} {b : Bool} (h : bool v = .ok b) : IsBool v b := by
  cases v <;> cases h
  rfl

theorem names_of_kinds {v : Toml} {ks : List Kind} (h : Config.kinds v = .ok ks) : Names v ks := by
  cases v with
  | array items =>
    rw [Config.kinds] at h
    induction items generalizing ks with
    | nil =>
      cases h
      exact ⟨[], rfl, rfl⟩
    | cons item items ih =>
      rw [List.mapM_cons] at h
      obtain ⟨k, hk, h⟩ := Decode.bind_eq_ok_iff.mp h
      obtain ⟨rest, hr, h⟩ := Decode.bind_eq_ok_iff.mp h
      cases h
      obtain ⟨names, hn, rfl⟩ := ih hr
      cases item with
      | text name =>
        cases hk
        exact ⟨name :: names, by rw [Toml.array.inj hn]; rfl, rfl⟩
      | _ => cases hk
  | _ => cases h

/-- Reading entries changes a field where an entry has its name, and not where none has. -/
theorem told_of_foldlM {α : Type} {name : String} {tells : Toml → α → Prop} {field : Fatal → α}
    {f g : Fatal} {es : List (String × Toml)}
    (hadd : ∀ {f g : Fatal} {v : Toml}, f.add (name, v) = .ok g → tells v (field g))
    (hother : ∀ {f g : Fatal} {other : String} {v : Toml}, other ≠ name → f.add (other, v) = .ok g →
      field g = field f)
    (h : es.foldlM Fatal.add f = .ok g) : Told es name tells (field f) (field g) := by
  induction es generalizing f with
  | nil =>
    cases h
    exact .inr ⟨fun _ hv => (nomatch hv), rfl⟩
  | cons e es ih =>
    obtain ⟨other, v⟩ := e
    rw [List.foldlM_cons] at h
    obtain ⟨f', hf, h⟩ := Decode.bind_eq_ok_iff.mp h
    obtain ⟨w, hw, hr⟩ | ⟨hn, hd⟩ := ih h
    · exact .inl ⟨w, List.mem_cons_of_mem _ hw, hr⟩
    · by_cases ho : other = name
      · subst ho
        exact .inl ⟨v, List.mem_cons_self, by rw [hd]; exact hadd hf⟩
      · refine .inr ⟨fun w hw => ?_, by rw [hd, hother ho hf]⟩
        obtain he | hw := List.mem_cons.mp hw
        · exact ho (Prod.mk.inj he).1.symm
        · exact hn w hw

theorem Fatal.add_eq_ok {f g : Fatal} {name : String} {v : Toml} (h : f.add (name, v) = .ok g) :
    (name = "include_defaults" ∧ ∃ b, bool v = .ok b ∧ g = { f with includeDefaults := b }) ∨
    (name = "kinds" ∧ ∃ ks, Config.kinds v = .ok ks ∧ g = { f with kinds := ks }) ∨
    (name = "exclude" ∧ ∃ ks, Config.kinds v = .ok ks ∧ g = { f with exclude := ks }) := by
  unfold Fatal.add at h
  split at h
  · rename_i w he
    obtain ⟨rfl, rfl⟩ := Prod.mk.inj he
    obtain ⟨b, hb, rfl⟩ := Decode.map_eq_ok_iff.mp h
    exact .inl ⟨rfl, b, hb, rfl⟩
  · rename_i w he
    obtain ⟨rfl, rfl⟩ := Prod.mk.inj he
    obtain ⟨ks, hk, rfl⟩ := Decode.map_eq_ok_iff.mp h
    exact .inr (.inl ⟨rfl, ks, hk, rfl⟩)
  · rename_i w he
    obtain ⟨rfl, rfl⟩ := Prod.mk.inj he
    obtain ⟨ks, hk, rfl⟩ := Decode.map_eq_ok_iff.mp h
    exact .inr (.inr ⟨rfl, ks, hk, rfl⟩)
  · cases h

theorem Fatal.tells_of_foldlM {f : Fatal} {es : List (String × Toml)}
    (h : es.foldlM Fatal.add {} = .ok f) : f.Tells es := by
  refine ⟨told_of_foldlM ?_ ?_ h, told_of_foldlM ?_ ?_ h, told_of_foldlM ?_ ?_ h⟩
  -- an entry of the name is read into the field
  case refine_1 =>
    intro f g v hf
    obtain ⟨b, hb, rfl⟩ := Decode.map_eq_ok_iff.mp hf
    exact isBool_of_bool hb
  case refine_3 | refine_5 =>
    intro f g v hf
    obtain ⟨ks, hk, rfl⟩ := Decode.map_eq_ok_iff.mp hf
    exact names_of_kinds hk
  -- and an entry of another name leaves the field alone
  all_goals
    intro f g name v hn hf
    obtain ⟨rfl, _, _, rfl⟩ | ⟨rfl, _, _, rfl⟩ | ⟨rfl, _, _, rfl⟩ := Fatal.add_eq_ok hf <;>
      first | rfl | exact absurd rfl hn

theorem Told.congr {α : Type} {es es' : List (String × Toml)} {name : String}
    {tells : Toml → α → Prop} {default field : α} (h : Told es name tells default field)
    (he : ∀ e, e ∈ es ↔ e ∈ es') : Told es' name tells default field := by
  obtain ⟨v, hv, ht⟩ | ⟨hn, hd⟩ := h
  · exact .inl ⟨v, (he _).mp hv, ht⟩
  · exact .inr ⟨fun v hv => hn v ((he _).mpr hv), hd⟩

/-- A value that describes a policy tells the fields of its entries; in which order they stand does
not matter. -/
theorem Fatal.tells_of_ofToml {v : Toml} {f : Fatal} (h : Fatal.ofToml v = .ok f) :
    f.Tells (entries v) := by
  cases v with
  | table es =>
    have ht := Fatal.tells_of_foldlM h
    have he : ∀ e, e ∈ sorted es ↔ e ∈ es := fun e => List.mem_mergeSort
    exact ⟨ht.includeDefaults.congr he, ht.kinds.congr he, ht.exclude.congr he⟩
  | array items => exact Fatal.tells_of_foldlM h
  | _ => cases h

/-- The entries of a document that tell a policy: none where nothing describes one. -/
def described (es : List (String × Toml)) : List (String × Toml) :=
  ((es.lookup "fatal").map entries).getD []

/-- **What a text tells** that is accepted: the fields of the table that describes the policy. -/
theorem tells_of_parse {text : String} {config : Config} (h : parse text = .ok config) :
    ∃ es, Toml.ofText? text = some es ∧ config.table.Tells (described es) := by
  unfold parse at h
  split at h
  · cases h
  · rename_i es hes
    refine ⟨es, hes, ?_⟩
    split at h
    · rename_i c hc
      split at h <;> cases h
      rw [ofTable] at hc
      rw [described]
      split at hc
      · rename_i hl
        cases hc
        rw [hl]
        exact ⟨.inr ⟨fun _ hv => (nomatch hv), rfl⟩, .inr ⟨fun _ hv => (nomatch hv), rfl⟩,
          .inr ⟨fun _ hv => (nomatch hv), rfl⟩⟩
      · rename_i v hl
        obtain ⟨f, hf, rfl⟩ := Decode.map_eq_ok_iff.mp hc
        rw [hl]
        exact Fatal.tells_of_ofToml hf
    · cases h

/-! ## Installing -/

/-- **Which policy is installed**: that of the text of the configuration, where there is no
classifier yet. -/
theorem install_eq_ok {σ : Type} {h : Host} {s s' : Session σ} {P : Policy}
    (hi : install h s = (.returned (.ok (some P)), s')) :
    (∃ text config, text? h = some text ∧ parse text = .ok config ∧ P = config.policy) ∧
      s.classifier = none ∧ s'.classifier = some P.classifier := by
  obtain ⟨_ | _ | config, t, hl, hi⟩ := Run.bind_eq_returned_iff.mp hi
  · cases hi
  · cases hi
  · obtain ⟨_ | _, t', hk, hi⟩ := Run.bind_eq_returned_iff.mp hi
    · cases hi
    · cases hi
      obtain ⟨⟨text, ht, hp⟩, rfl⟩ := load_eq_ok hl
      obtain ⟨hs, rfl⟩ := Classifier.install_eq_ok_iff.mp hk
      exact ⟨⟨text, config, ht, hp, rfl⟩, hs, rfl⟩

end Config

/-! ## Unwinding -/

section Unwinding

variable {σ α : Type}

/-- A session is reached from another by a run that takes its steps with the classifier. -/
def Session.Reaches (s t : Session σ) : Prop :=
  ∃ (α : Type) (m : Run σ α) (steps : List Step), m.Takes s steps ∧ (m s).2 = t

/-- A classifier in effect stays whatever is run. -/
theorem Session.Reaches.classifier_eq {s t : Session σ} (h : s.Reaches t) {k : Classifier}
    (hs : s.classifier = some k) : t.classifier = some k := by
  obtain ⟨α, m, steps, hm, rfl⟩ := h
  exact hm.classifier_eq_some hs

/-- **What unwinds under a policy**: a cause that is handed over to be captured does just if its
kind descends from a kind that the policy lists. -/
theorem CapturingCall.thrown_iff (q : CapturingCall σ α) {r t : Session σ} {c : Cause} {P : Policy}
    (hq : q.handed r = (.returned (some c), t)) (ht : t.classifier = some P.classifier) :
    (q.run r).1 = .thrown c ↔ ∃ k ∈ P.kinds, k ∈ c.kind.lineage := by
  have he := q.run_eq_capture (CapturingCall.upshot_of_handed hq)
  have hf : t.inEffect.isFatal c = P.isFatal c.kind := by
    rw [Session.inEffect_of_eq_some ht]
    rfl
  rw [he, Run.map_apply, Captured.capture_apply, hf, ← Policy.isFatal_iff]
  cases P.isFatal c.kind <;> simp

end Unwinding

/-- **A configuration decides what unwinds.** A text that is accepted is a document, whose entries
tell whether the defaults are included, which kinds are added and which are taken away. The policy
lists the defaults, if they are included, and the kinds to add, each once and at its first place,
without those to take away: a kind that is taken away is not listed, wherever else it stands, and is
fatal only if an ancestor other than itself is listed.

Where this text is the configuration of a host and a policy was installed, it is this one, and in
every session that is reached from then on, a cause that a call hands over to be captured unwinds
just if its kind or an ancestor of it is listed. -/
theorem Config.decides_unwinding {text : String} {config : Config}
    (hp : Config.parse text = .ok config) :
    let f := config.table
    (∃ es, Toml.ofText? text = some es ∧ f.Tells (described es)) ∧
      config.policy.kinds =
        (((if f.includeDefaults then Policy.defaultKinds else []) ++ f.kinds).eraseDups.filter
          (· ∉ f.exclude)) ∧
      (∀ k, k ∈ config.policy.kinds ↔
        ((f.includeDefaults = true ∧ k ∈ Policy.defaultKinds) ∨ k ∈ f.kinds) ∧ k ∉ f.exclude) ∧
      (∀ k ∈ f.exclude,
        config.policy.isFatal k = true ↔ ∃ a ∈ config.policy.kinds, a ∈ k.lineage.tail) ∧
      ∀ (σ : Type) (h : Host) (s s' : Session σ) (P : Policy), text? h = some text →
        Config.install h s = (.returned (.ok (some P)), s') → P = config.policy ∧
          ∀ (α : Type) (q : CapturingCall σ α) (r t : Session σ) (c : Cause), s'.Reaches t →
            q.handed r = (.returned (some c), t) →
            ((q.run r).1 = .thrown c ↔ ∃ k ∈ config.policy.kinds, k ∈ c.kind.lineage) := by
  intro f
  have hpol : config.policy = f.policy := config.policy_eq
  refine ⟨tells_of_parse hp, ?_, ?_, ?_, ?_⟩
  · rw [hpol, Fatal.kinds_policy]
  · intro k
    rw [hpol, Fatal.mem_kinds_policy_iff]
  · intro k hk
    refine Policy.isFatal_iff_of_not_mem fun hm => ?_
    rw [hpol, Fatal.mem_kinds_policy_iff] at hm
    exact hm.2 hk
  · intro σ h s s' P htext hi
    obtain ⟨⟨text', config', ht', hp', rfl⟩, -, hs'⟩ := install_eq_ok hi
    -- the host has one text, which has one configuration
    obtain rfl := Option.some.inj (htext.symm.trans ht')
    obtain rfl := Except.ok.inj (hp.symm.trans hp')
    refine ⟨rfl, fun α q r t c hr hq => ?_⟩
    exact q.thrown_iff hq (hr.classifier_eq hs')

/-- Running out of memory is taken away but was never listed: with the configuration installed it
still unwinds where it is captured, by its parent. -/
theorem Config.outOfMemory_unwinds :
    let text := "[fatal]\nexclude = [\"Linkage\", \"OutOfMemory\"]\n"
    let config : Config := { fatal := some { exclude := [.linkage, .outOfMemory] } }
    let h : Host :=
      { lookup := fun name => if name = "RECOURSE_CONFIG" then some "/c.toml" else none
        files := [(["c.toml"], textFile text)]
        directory := [] }
    let memory : Cause := { condition := ⟨0, .outOfMemory, none⟩ }
    let q : CapturingCall Unit (Attempt Unit) := .of (return .error memory)
    Config.parse text = .ok config ∧ config.policy.kinds = [.virtualMachine, .terminated] ∧
      config.policy.isFatal .outOfMemory = true ∧
      ∃ s, Config.install h (Session.start ()) = (.returned (.ok (some config.policy)), s) ∧
        (q.run s).1 = .thrown memory := by
  intro text config h memory q
  have hp : Config.parse text = .ok config :=
    Decode.toOption_eq_some_iff.mp (by decide +kernel)
  have hk : config.policy.kinds = [.virtualMachine, .terminated] := by decide
  have hm : Kind.virtualMachine ∈ config.policy.kinds := by
    rw [hk]
    exact List.mem_cons_self
  have hl : Kind.virtualMachine ∈ Kind.outOfMemory.lineage.tail := by
    rw [Kind.lineage_eq, Kind.parent, Option.elim_some, Kind.lineage_eq]
    exact List.mem_cons_self
  have hn : Stands h "/c.toml" (textFile text) := by
    constructor
    · rfl
    · rfl
  have hi := install_of_text (s := Session.start ()) hn hp
  obtain ⟨-, -, -, hexcluded, hrun⟩ := Config.decides_unwinding hp
  obtain ⟨-, hthrown⟩ := hrun Unit h _ _ config.policy (text?_of_stands hn) hi
  refine ⟨hp, hk, (hexcluded .outOfMemory (by decide)).mpr ⟨.virtualMachine, hm, hl⟩, _, hi, ?_⟩
  refine (hthrown _ q _ _ memory ?_ rfl).mpr ⟨.virtualMachine, hm, List.mem_of_mem_tail hl⟩
  -- nothing more is run before the cause is captured
  exact ⟨Unit, pure (), [], .pure () _, rfl⟩

end Fallible
