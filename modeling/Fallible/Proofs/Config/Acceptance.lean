import Fallible.Proofs.Codec.Record
import Fallible.Proofs.Config.Installed
import Fallible.Proofs.Toml.Distinct
import Mathlib.Data.List.Nodup

/-!
# Which configurations are accepted

Of a document only the table `fatal` is looked at. A configuration is accepted just if every entry
of this table is that of a field, with a value of the kind that the field has; there may be no such
table at all. What is accepted tells the fields of the table. Since no table of a document has a key
twice, this fixes the configuration, and neither the order of keys nor anything that stands outside
the table matters.

## Main definitions

* `Config.Document`: a text that is a document, and its entries
* `Config.IsField`: the entries that the table may have

## Main results

* `Config.exists_foldlM_add_iff`: which entries can be read, whatever was read before
* `Config.Fatal.Tells.unique`: entries under different keys tell one table of fields
* `Config.Fatal.ofToml_table_eq_ok_iff`: what is read of a table
* `Config.accepted_exactly`: from the text to what is accepted
-/

namespace Fallible.Config

/-! ## Values -/

theorem bool_eq_ok_iff {v : Toml} {b : Bool} : bool v = .ok b ↔ IsBool v b := by
  refine ⟨isBool_of_bool, ?_⟩
  rintro rfl
  rfl

theorem kinds_names (names : List String) :
    Config.kinds (.array (names.map .text)) = .ok (names.map Kind.ofName) := by
  induction names with
  | nil => rfl
  | cons name names ih =>
    rw [Config.kinds] at ih
    rw [Config.kinds, List.map_cons, List.mapM_cons, ih]
    rfl

theorem kinds_eq_ok_iff {v : Toml} {ks : List Kind} : Config.kinds v = .ok ks ↔ Names v ks := by
  refine ⟨names_of_kinds, ?_⟩
  rintro ⟨names, rfl, rfl⟩
  exact kinds_names names

theorem IsBool.unique {v : Toml} {b c : Bool} (hb : IsBool v b) (hc : IsBool v c) : b = c :=
  Except.ok.inj ((bool_eq_ok_iff.mpr hb).symm.trans (bool_eq_ok_iff.mpr hc))

theorem Names.unique {v : Toml} {ks ls : List Kind} (hk : Names v ks) (hl : Names v ls) : ks = ls :=
  Except.ok.inj ((kinds_eq_ok_iff.mpr hk).symm.trans (kinds_eq_ok_iff.mpr hl))

/-! ## Entries of the table -/

/-- The entries that the table may have: a truth value and two lists of names, each under its
key. -/
inductive IsField : String × Toml → Prop where
  | includeDefaults (b : Bool) : IsField ("include_defaults", .bool b)
  | kinds (names : List String) : IsField ("kinds", .array (names.map .text))
  | exclude (names : List String) : IsField ("exclude", .array (names.map .text))

/-- Whether an entry can be read does not depend on what was read before. -/
theorem exists_add_iff {f : Fatal} {e : String × Toml} :
    (∃ g, f.add e = .ok g) ↔ IsField e := by
  constructor
  · rintro ⟨g, h⟩
    obtain ⟨name, v⟩ := e
    obtain ⟨rfl, b, hb, -⟩ | ⟨rfl, ks, hk, -⟩ | ⟨rfl, ks, hk, -⟩ := Fatal.add_eq_ok h
    · obtain rfl := isBool_of_bool hb
      exact .includeDefaults b
    · obtain ⟨names, rfl, -⟩ := names_of_kinds hk
      exact .kinds names
    · obtain ⟨names, rfl, -⟩ := names_of_kinds hk
      exact .exclude names
  · rintro (b | names | names)
    · exact ⟨{ f with includeDefaults := b }, rfl⟩
    · exact ⟨{ f with kinds := names.map Kind.ofName }, by rw [Fatal.add, kinds_names]; rfl⟩
    · exact ⟨{ f with exclude := names.map Kind.ofName }, by rw [Fatal.add, kinds_names]; rfl⟩

/-- **Which entries can be read**: those of fields, whatever was read before. -/
theorem exists_foldlM_add_iff {f : Fatal} {es : List (String × Toml)} :
    (∃ g, es.foldlM Fatal.add f = .ok g) ↔ ∀ e ∈ es, IsField e := by
  induction es generalizing f with
  | nil => exact ⟨fun _ _ he => (nomatch he), fun _ => ⟨f, rfl⟩⟩
  | cons e es ih =>
    rw [List.forall_mem_cons, ← exists_add_iff (f := f)]
    constructor
    · rintro ⟨g, h⟩
      obtain ⟨f', hf, h⟩ := Decode.bind_eq_ok_iff.mp h
      exact ⟨⟨f', hf⟩, ih.mp ⟨g, h⟩⟩
    · rintro ⟨⟨f', hf⟩, hes⟩
      obtain ⟨g, hg⟩ := ih.mpr hes
      exact ⟨g, Decode.bind_eq_ok_iff.mpr ⟨f', hf, hg⟩⟩

/-- Entries under different keys tell a field one value at most. -/
theorem Told.unique {α : Type} {es : List (String × Toml)} {name : String}
    {tells : Toml → α → Prop} {default a b : α} (ha : Told es name tells default a)
    (hb : Told es name tells default b) (hk : (es.map Prod.fst).Nodup)
    (hu : ∀ v a b, tells v a → tells v b → a = b) : a = b := by
  obtain ⟨v, hv, ha⟩ | ⟨hn, rfl⟩ := ha
  · obtain ⟨w, hw, hb⟩ | ⟨hn, -⟩ := hb
    · have he : (name, v) = (name, w) := List.inj_on_of_nodup_map hk hv hw rfl
      obtain rfl := (Prod.mk.inj he).2
      exact hu v a b ha hb
    · exact absurd hv (hn v)
  · obtain ⟨w, hw, -⟩ | ⟨-, rfl⟩ := hb
    · exact absurd hw (hn w)
    · rfl

/-- Entries under different keys tell one table of fields at most. -/
theorem Fatal.Tells.unique {es : List (String × Toml)} {f g : Fatal}
    (hk : (es.map Prod.fst).Nodup) (hf : f.Tells es) (hg : g.Tells es) : f = g := by
  obtain ⟨d, ks, xs⟩ := f
  obtain ⟨d', ks', xs'⟩ := g
  obtain rfl := hf.includeDefaults.unique hg.includeDefaults hk fun _ _ _ => IsBool.unique
  obtain rfl := hf.kinds.unique hg.kinds hk fun _ _ _ => Names.unique
  obtain rfl := hf.exclude.unique hg.exclude hk fun _ _ _ => Names.unique
  rfl

/-- **What is read of a table**: the fields that its entries tell, if all are entries of fields. -/
theorem Fatal.ofToml_table_eq_ok_iff {t : List (String × Toml)} {f : Fatal}
    (hk : (t.map Prod.fst).Nodup) :
    Fatal.ofToml (.table t) = .ok f ↔ (∀ e ∈ t, IsField e) ∧ f.Tells t := by
  have hs : ∀ e, e ∈ sorted t ↔ e ∈ t := fun e => List.mem_mergeSort
  constructor
  · intro h
    exact ⟨fun e he => exists_foldlM_add_iff.mp ⟨f, h⟩ e ((hs e).mpr he), Fatal.tells_of_ofToml h⟩
  · rintro ⟨hfields, ht⟩
    obtain ⟨g, hg⟩ := exists_foldlM_add_iff.mpr fun e he => hfields e ((hs e).mp he)
    obtain rfl := ht.unique hk (Fatal.tells_of_ofToml (v := .table t) hg)
    exact hg

/-! ## Documents -/

/-- A text is a document with such entries: it has the form of one, and every number in what is not
looked at has a value. A number has none if it goes on with other things than digits or is too large
for any reader. -/
structure Document (text : String) (es : List (String × Toml)) : Prop where
  read : Toml.ofText? text = some es
  passable : Toml.entriesPassable (ignored es) = true

/-- What a text that has the form of a document is read as. -/
theorem parse_eq_ok_iff {text : String} {es : List (String × Toml)} {config : Config}
    (h : Toml.ofText? text = some es) :
    parse text = .ok config ↔
      ofTable es = .ok config ∧ Toml.entriesPassable (ignored es) = true := by
  unfold parse
  rw [h]
  simp only
  cases ofTable es with
  | error fault => simp
  | ok c => by_cases hp : Toml.entriesPassable (ignored es) = true <;> simp [hp]

section Document

variable {text : String} {es t : List (String × Toml)}

/-- What is no document is not accepted. -/
theorem exists_document {config : Config} (h : parse text = .ok config) :
    ∃ es, Document text es := by
  obtain ⟨es, hes, -⟩ := tells_of_parse h
  exact ⟨es, hes, ((parse_eq_ok_iff hes).mp h).2⟩

theorem Document.parse_eq_ok_iff (hd : Document text es) {config : Config} :
    parse text = .ok config ↔ ofTable es = .ok config := by
  rw [Config.parse_eq_ok_iff hd.read, and_iff_left hd.passable]

theorem Document.nodup_table (hd : Document text es) {key : String}
    (hl : es.lookup key = some (.table t)) : (t.map Prod.fst).Nodup := by
  obtain ⟨before, after, rfl, -⟩ := List.lookup_eq_some_iff.mp hl
  exact (Toml.keyed_of_ofText? hd.read).nodup_table (List.mem_append_right _ List.mem_cons_self)

/-- What a document is read as that has the table. -/
theorem Document.parse_eq_ok_iff_of_table (hd : Document text es)
    (hl : es.lookup "fatal" = some (.table t)) {config : Config} :
    parse text = .ok config ↔
      (∀ e ∈ t, IsField e) ∧ ∃ f, f.Tells t ∧ config = { fatal := some f } := by
  rw [hd.parse_eq_ok_iff, ofTable, hl]
  constructor
  · intro h
    obtain ⟨f, hf, rfl⟩ := Decode.map_eq_ok_iff.mp h
    obtain ⟨hfields, ht⟩ := (Fatal.ofToml_table_eq_ok_iff (hd.nodup_table hl)).mp hf
    exact ⟨hfields, f, ht, rfl⟩
  · rintro ⟨hfields, f, ht, rfl⟩
    have hf := (Fatal.ofToml_table_eq_ok_iff (hd.nodup_table hl)).mpr ⟨hfields, ht⟩
    exact Decode.map_eq_ok_iff.mpr ⟨f, hf, rfl⟩

/-- Entries of fields tell a table of fields. -/
theorem exists_tells (hfields : ∀ e ∈ t, IsField e) : ∃ f : Fatal, f.Tells t := by
  obtain ⟨f, hf⟩ := exists_foldlM_add_iff.mpr hfields
  exact ⟨f, Fatal.tells_of_foldlM hf⟩

end Document

/-- In what order the entries stand does not matter to what they tell. -/
theorem Fatal.tells_iff_of_perm {es es' : List (String × Toml)} {f : Fatal} (hp : es.Perm es') :
    f.Tells es ↔ f.Tells es' := by
  have imp {es es' : List (String × Toml)} (hp : es.Perm es') (h : f.Tells es) : f.Tells es' :=
    ⟨h.includeDefaults.congr fun _ => hp.mem_iff, h.kinds.congr fun _ => hp.mem_iff,
      h.exclude.congr fun _ => hp.mem_iff⟩
  exact ⟨imp hp, imp hp.symm⟩

/-- **Which configurations are accepted.** A document without the table is accepted, and describes
no policy. One with the table is accepted just if each entry of the table is that of a field: its
key is one of the three, and its value is a truth value or an array of texts only, as the key asks.
What is accepted tells the fields, each as its entry has it or, without an entry, by its default;
a built-in name stands for the built-in kind, and every other text for the caller-defined kind of
that name. Every document whose table has the same entries, in whatever order and among whatever
else, is read as the same configuration. And nothing but a document is accepted. -/
theorem accepted_exactly {text : String} {es : List (String × Toml)} (hd : Document text es) :
    (es.lookup "fatal" = none → parse text = .ok {}) ∧
      (∀ t, es.lookup "fatal" = some (.table t) →
        ((∃ config, parse text = .ok config) ↔ ∀ e ∈ t, IsField e) ∧
        (∀ config, parse text = .ok config →
          ∃ f, config = { fatal := some f } ∧ f.Tells t ∧ ∀ g : Fatal, g.Tells t → g = f) ∧
        ∀ text' es' t', Document text' es' → es'.lookup "fatal" = some (.table t') → t'.Perm t →
          ∀ config, parse text' = .ok config ↔ parse text = .ok config) ∧
      (∀ k ∈ Kind.builtins, Kind.ofName k.name = k) ∧
      (∀ name, (∀ k ∈ Kind.builtins, k.name ≠ name) → Kind.ofName name = .other name) ∧
      ∀ text' config, parse text' = .ok config → ∃ es', Document text' es' := by
  refine ⟨fun hl => ?_, fun t hl => ⟨⟨?_, ?_⟩, ?_, ?_⟩, fun k hk => ?_, fun name hn => ?_,
    fun text' config => exists_document⟩
  · rw [hd.parse_eq_ok_iff, ofTable, hl]
  · rintro ⟨config, hc⟩
    exact ((hd.parse_eq_ok_iff_of_table hl).mp hc).1
  · intro hfields
    obtain ⟨f, hf⟩ := exists_tells hfields
    exact ⟨_, (hd.parse_eq_ok_iff_of_table hl).mpr ⟨hfields, f, hf, rfl⟩⟩
  · intro config hc
    obtain ⟨-, f, hf, rfl⟩ := (hd.parse_eq_ok_iff_of_table hl).mp hc
    exact ⟨f, rfl, hf, fun g hg => hg.unique (hd.nodup_table hl) hf⟩
  · intro text' es' t' hd' hl' hp config
    rw [hd'.parse_eq_ok_iff_of_table hl', hd.parse_eq_ok_iff_of_table hl]
    simp only [hp.mem_iff, Fatal.tells_iff_of_perm hp]
  · exact Kind.ofName_name fun b _ => Kind.ne_other_of_mem_builtins hk b.name
  · exact Kind.ofName_name fun b hb h => hn b hb (Kind.other.inj h).symm

/-- A document that has the table by a key with dots, and another table that has the same key. -/
theorem accepted_among_others :
    let text := "fatal.kinds = [\"Io\", \"Mine\"]\n[other]\nkinds = 1\n"
    let t : List (String × Toml) := [("kinds", .array (["Io", "Mine"].map .text))]
    let es : List (String × Toml) :=
      [("fatal", .table t), ("other", .table [("kinds", .integer 1)])]
    Document text es ∧ parse text = .ok { fatal := some { kinds := [.io, .other "Mine"] } } := by
  intro text t es
  have hread : Toml.ofText? text = some es := by
    simp only [text, Toml.ofText?, String.reduceToList]
    rfl
  have hd : Document text es := ⟨hread, by decide +kernel⟩
  obtain ⟨-, htable, hbuiltin, hother, -⟩ := accepted_exactly hd
  obtain ⟨hiff, htells, -⟩ := htable t rfl
  obtain ⟨config, hc⟩ := hiff.mpr (List.forall_mem_singleton.mpr (.kinds ["Io", "Mine"]))
  obtain ⟨f, rfl, -, hunique⟩ := htells config hc
  have hnames : [.io, .other "Mine"] = ["Io", "Mine"].map Kind.ofName := by
    have hio : Kind.ofName "Io" = .io := hbuiltin .io (by decide)
    rw [List.map_cons, hio, List.map_singleton, hother "Mine" (by decide)]
  obtain rfl := hunique { kinds := [.io, .other "Mine"] }
    ⟨.inr ⟨fun v hv => by simp [t] at hv, rfl⟩, .inl ⟨_, .head _, ["Io", "Mine"], rfl, hnames⟩,
      .inr ⟨fun v hv => by simp [t] at hv, rfl⟩⟩
  exact ⟨hd, hc⟩

end Fallible.Config
