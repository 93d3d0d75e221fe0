import Fallible.Config.Load
import Fallible.Proofs.Codec.Reading

/-!
# Loading a configuration

A configuration is looked for at one path, and what stands there tells all about loading it. Where
nothing is seen there is none, where a file holds a text this is parsed, and anything else cannot be
read. To install it is to load it and to put its policy into effect, for which there must be no
classifier yet.

## Main definitions

* `Config.Stands`: what stands where the configuration is looked for
* `Config.text?`: the text of the configuration of a host

## Main results

* `Config.readText_eq_ok_iff`: what can be read is a file that holds a text
* `Config.load_of_nothing`, `Config.load_of_unreadable`, `Config.load_of_text`: loading, by what
  stands
* `Config.load_eq_ok`: a configuration that was loaded is that of the text
* `Config.install_of_text`: installing the configuration of a text
-/

namespace Fallible.Config

variable {σ : Type}

/-! ## What stands where the configuration is looked for -/

/-- A node stands at the path where the configuration is looked for. It stands there if the host,
asked whether anything exists at the path, can follow the path and says so. A file in a directory
that cannot be searched does not stand, though it may be there: the host says no, and loading takes
it for missing. A file that is seen stands even if its contents are refused. -/
def Stands (h : Host) (path : String) (node : Node) : Prop :=
  path? h = some path ∧ h.find? path = some node

/-- A host has one path for the configuration, and one node stands there. -/
theorem Stands.iff_eq {h : Host} {path : String} {node : Node} (hn : Stands h path node)
    {other : String} {there : Node} : Stands h other there ↔ other = path ∧ there = node := by
  obtain ⟨hp, hn⟩ := hn
  constructor
  · rintro ⟨ho, ht⟩
    obtain rfl := Option.some.inj (hp.symm.trans ho)
    exact ⟨rfl, Option.some.inj (ht.symm.trans hn)⟩
  · rintro ⟨rfl, rfl⟩
    exact ⟨hp, hn⟩

/-- A file that holds a text. -/
def textFile (text : String) : Node :=
  .file text.toUTF8

theorem textFile_inj {text other : String} : textFile text = textFile other ↔ text = other := by
  rw [textFile, textFile, Node.file.injEq, String.toUTF8_eq_toByteArray,
    String.toUTF8_eq_toByteArray, String.toByteArray_inj]

theorem fromUTF8?_eq_some_iff {bytes : ByteArray} {text : String} :
    String.fromUTF8? bytes = some text ↔ bytes = text.toUTF8 := by
  unfold String.fromUTF8?
  constructor
  · intro h
    split at h
    · cases h
      rfl
    · cases h
  · rintro rfl
    rw [String.toUTF8_eq_toByteArray, dif_pos text.isValidUTF8]
    rfl

/-- **What can be read** is a file that holds a text. -/
theorem readText_eq_ok_iff {node : Node} {text : String} :
    readText node = .ok text ↔ node = textFile text := by
  cases node with
  | directory | closed reason => simp [readText, textFile]
  | file bytes =>
    rw [textFile, Node.file.injEq, ← fromUTF8?_eq_some_iff, readText]
    cases String.fromUTF8? bytes <;> simp

/-- Nothing stands there, or what stands there is no file that holds a text, or it is one. -/
theorem stands_cases (h : Host) :
    (∀ path node, ¬Stands h path node) ∨
    (∃ path node, Stands h path node ∧ ∀ text, node ≠ textFile text) ∨
    ∃ path text, Stands h path (textFile text) := by
  by_cases hn : ∃ path node, Stands h path node
  · obtain ⟨path, node, hn⟩ := hn
    by_cases ht : ∃ text, node = textFile text
    · obtain ⟨text, rfl⟩ := ht
      exact .inr (.inr ⟨path, text, hn⟩)
    · exact .inr (.inl ⟨path, node, hn, not_exists.mp ht⟩)
  · exact .inl fun path node hs => hn ⟨path, node, hs⟩

/-! ## Loading -/

section Loading

variable {h : Host} {path text : String} {node : Node} {s : Session σ}

theorem load_of_nothing (hn : ∀ path node, ¬Stands h path node) :
    load h s = (.returned (.ok none), s) := by
  cases hp : path? h with
  | none =>
    simp only [load, hp]
    rfl
  | some path =>
    have hf : h.find? path = none := Option.eq_none_iff_forall_ne_some.mpr fun node hf =>
      hn path node ⟨hp, hf⟩
    simp only [load, hp, loadFrom, hf]
    rfl

theorem load_of_unreadable (hn : Stands h path node) (ht : ∀ text, node ≠ textFile text) :
    ∃ fault, load h s = (.returned (.error (.read path fault)), s.reporting .unreadable) := by
  obtain ⟨hp, hf⟩ := hn
  cases hr : readText node with
  | ok text => exact absurd (readText_eq_ok_iff.mp hr) (ht text)
  | error fault =>
    refine ⟨fault, ?_⟩
    simp only [load, hp, loadFrom, hf, hr]
    rfl

/-- Where a text stands, loading is parsing it. -/
theorem load_of_text (hn : Stands h path (textFile text)) :
    load h s = match parse text with
      | .error e => (.returned (.error (.parse path e)), s.reporting .incomprehensible)
      | .ok config => (.returned (.ok (some config)), s) := by
  obtain ⟨hp, hf⟩ := hn
  simp only [load, hp, loadFrom, hf, readText_eq_ok_iff.mpr rfl]
  cases parse text <;> rfl

/-- The text of the configuration of a host, if there is one that can be read. -/
def text? (h : Host) : Option String := do
  let node ← h.find? (← path? h)
  (readText node).toOption

theorem text?_of_stands (hn : Stands h path (textFile text)) : text? h = some text := by
  obtain ⟨hp, hf⟩ := hn
  rw [text?, hp, Option.bind_eq_bind, Option.bind_some, hf]
  exact congrArg Except.toOption (readText_eq_ok_iff.mpr rfl)

/-- A configuration that was loaded is that of the text. -/
theorem load_eq_ok {s s' : Session σ} {config : Config}
    (hl : load h s = (.returned (.ok (some config)), s')) :
    (∃ text, text? h = some text ∧ parse text = .ok config) ∧ s' = s := by
  obtain hn | ⟨path, node, hn, ht⟩ | ⟨path, text, hn⟩ := stands_cases h
  · rw [load_of_nothing hn] at hl
    cases hl
  · obtain ⟨fault, hf⟩ := load_of_unreadable (s := s) hn ht
    rw [hf] at hl
    cases hl
  · rw [load_of_text hn] at hl
    cases hp : parse text with
    | error e =>
      rw [hp] at hl
      cases hl
    | ok config' =>
      rw [hp] at hl
      cases hl
      exact ⟨⟨text, text?_of_stands hn, hp⟩, rfl⟩

/-- Where a configuration stands, its policy is put into effect, unless there is a classifier. -/
theorem install_of_text {config : Config} (hn : Stands h path (textFile text))
    (hp : parse text = .ok config) :
    install h s = match s.classifier with
      | some _ => (.returned (.error (.install .alreadyActive)), s)
      | none => (.returned (.ok (some config.policy)),
          { s with classifier := some config.policy.classifier }.reporting
            (.installed config.policy.classifier)) := by
  have hl := load_of_text (s := s) hn
  rw [hp] at hl
  have hk := Classifier.install_apply config.policy.classifier s
  rw [install, Run.bind_of_returned _ hl]
  simp only
  cases hs : s.classifier with
  | some k =>
    rw [hs] at hk
    exact Run.bind_of_returned _ hk
  | none =>
    rw [hs] at hk
    exact Run.bind_of_returned _ hk

end Loading

end Fallible.Config
