import Fallible.Proofs.Codec.Reload
import Mathlib.Data.Set.Operations

/-!
# Names and kinds

There are two tables: one goes from a built-in kind to its name, and one from the name to the kind.
They say the same, so every way from a name to a kind leads to the same kind, and every way back
leads to the name. The only kind that no name leads to is a caller-defined one that was given a
built-in name by hand.

## Main definitions

* `Json.Says`: the documents that are just a string

## Main results

* `Kind.lookup_eq_ofName`: the tables agree
* `Kind.name_lookup`, `Kind.custom_name_iff`: from a name to a kind and back, and the other way
* `Kind.says_toJson`, `Json.Says.kind_eq`: what is written of a kind is a document of its name, and
  what says a name is read as the kind
* `Kind.names_correspond`: all of it
-/

namespace Fallible

namespace Kind

/-! ## The tables -/

/-- The one table undoes the other. -/
theorem lookup_name_of_mem {b : Kind} (hb : b ∈ builtins) : lookup b.name = b := by
  cases b with
  | other name => exact absurd rfl (ne_other_of_mem_builtins hb name)
  | _ => rfl

/-- What is found in the table has the name that was looked up. -/
theorem lookup_cases (s : String) :
    lookup s = other s ∨ lookup s ∈ builtins ∧ (lookup s).name = s := by
  unfold lookup
  split
  case h_17 => exact .inl rfl
  all_goals exact .inr ⟨by decide, rfl⟩

/-- **The tables agree.** -/
theorem lookup_eq_ofName (s : String) : lookup s = ofName s := by
  rw [ofName]
  cases hf : builtins.find? (·.name == s) with
  | some b =>
    have hn := List.find?_some hf
    rw [← beq_iff_eq.mp hn]
    exact lookup_name_of_mem (List.mem_of_find?_eq_some hf)
  | none =>
    obtain h | ⟨hb, hn⟩ := lookup_cases s
    · exact h
    · -- a kind that is found would have been found by its name as well
      exact absurd (beq_iff_eq.mpr hn) (List.find?_eq_none.mp hf _ hb)

theorem name_lookup (s : String) : (lookup s).name = s := by
  obtain h | ⟨-, hn⟩ := lookup_cases s
  · rw [h]; rfl
  · exact hn

/-! ## The ways to a kind -/

theorem adopt_eq_lookup (s : String) : adopt s = lookup s := by
  rw [adopt]
  split
  · rename_i t h
    have hs := name_lookup s
    rw [h] at hs ⊢
    rw [show t = s from hs]
  · rfl

theorem custom_eq_ofName (s : String) : custom s = ofName s :=
  (adopt_eq_lookup s).trans (lookup_eq_ofName s)

/-- **A kind is rebuilt from its name** exactly if it is not caller-defined by a built-in name. -/
theorem custom_name_iff {k : Kind} : custom k.name = k ↔ ∀ b ∈ builtins, k ≠ other b.name := by
  rw [custom_eq_ofName]
  exact ofName_name_iff

/-! ## The ways back -/

theorem intoName_eq_name (k : Kind) : k.intoName = k.name := by
  cases k <;> rfl

theorem name_custom (s : String) : (custom s).name = s := by
  rw [custom, adopt_eq_lookup, name_lookup]

end Kind

/-- The bytes are a document that is just a string, which says `s`. -/
def Json.Says (bytes : ByteArray) (s : String) : Prop :=
  Json.read (Json.Symbol.ofBytes bytes) = ⟨.text s, true⟩

/-- **What is written of a kind** is a document of its name. -/
theorem Kind.says_toJson (k : Kind) : Json.Says (String.ofList k.toJson.render).toUTF8 k.name := by
  rw [Json.Says, Json.Symbol.ofBytes_toUTF8, Json.Symbol.ofText, String.toList_ofList, Kind.toJson,
    k.intoName_eq_name]
  exact Json.read_render (.text k.name)

/-- Every document that says a name is read as the kind of that name. -/
theorem Json.Says.kind_eq {bytes : ByteArray} {s : String} (h : Json.Says bytes s) :
    Decode.kind (Json.read (Json.Symbol.ofBytes bytes)).tree = .ok (Kind.custom s) := by
  rw [h, Kind.custom_eq_ofName]
  rfl

/-- A caller who asks for the kind that a document says is answered with its name. -/
theorem Json.Says.decodeBytes_kind {σ : Type} {bytes : ByteArray} {s : String}
    (h : Json.Says bytes s) (session : Session σ) :
    Schema.kind.decodeBytes bytes session =
      (.returned (.ok (.text (Kind.custom s).name)), session) := by
  refine Schema.decodeBytes_of_read h (.text s) ?_ (by simp)
  rw [Kind.custom_eq_ofName]
  rfl

/-- **Names and kinds correspond exactly.**

* Whichever way a name leads to a kind, by the table, handed over, given to a caller-defined kind,
  parsed or read of a document, the kind is the same. All bytes that say the name are read as this
  kind itself, and a caller who asks for it is answered with its name. This name is the one that led
  to it, by itself, as its text, given up for it and in the document that is written of it.
* A kind is rebuilt from its name just if it is not caller-defined by a built-in name; then the
  built-in kind of that name, another one, comes in its place.
* So no two kinds that names lead to have the same name. -/
theorem Kind.names_correspond (s : String) (k : Kind) :
    (lookup s = custom s ∧ adopt s = custom s ∧ parse s = .ok (custom s) ∧
      Decode.kind (.text s) = .ok (custom s) ∧
      ∀ bytes, Json.Says bytes s →
        Decode.kind (Json.read (Json.Symbol.ofBytes bytes)).tree = .ok (custom s) ∧
        ∀ (σ : Type) (session : Session σ), Schema.kind.decodeBytes bytes session =
          (.returned (.ok (.text (custom s).name)), session)) ∧
    ((custom s).name = s ∧ display (custom s) = s ∧ (custom s).intoName = s ∧
      Json.Says (String.ofList (custom s).toJson.render).toUTF8 s) ∧
    (custom k.name = k ↔ ∀ b ∈ builtins, k ≠ other b.name) ∧
    (∀ b ∈ builtins, custom (other b.name).name = b ∧ b ≠ other b.name) ∧
    Set.InjOn name (Set.range custom) := by
  have hlookup : lookup s = custom s := (adopt_eq_lookup s).symm
  have hname : (custom s).name = s := name_custom s
  refine ⟨⟨hlookup, rfl, congrArg Except.ok hlookup, ?_, ?_⟩, ⟨hname, hname, ?_, ?_⟩,
    custom_name_iff, ?_, ?_⟩
  · rw [custom_eq_ofName]
    rfl
  · exact fun bytes h => ⟨h.kind_eq, fun σ session => h.decodeBytes_kind session⟩
  · rw [intoName_eq_name, hname]
  · have h := (custom s).says_toJson
    rwa [hname] at h
  · intro b hb
    refine ⟨?_, ne_other_of_mem_builtins hb b.name⟩
    show adopt b.name = b
    rw [adopt_eq_lookup, lookup_name_of_mem hb]
  · rintro _ ⟨t, rfl⟩ _ ⟨u, rfl⟩ h
    rw [name_custom, name_custom] at h
    rw [h]

/-- A kind that a caller gave the name of a built-in one by hand is not that kind, and is read back
as it. -/
theorem Kind.linkage_reloaded :
    linkage ∈ builtins ∧ linkage ≠ other "Linkage" ∧ custom (other "Linkage").name = linkage ∧
      let bytes := (String.ofList linkage.toJson.render).toUTF8
      Json.Says bytes "Linkage" ∧
      Decode.kind (Json.read (Json.Symbol.ofBytes bytes)).tree = .ok linkage ∧
      Schema.kind.decodeBytes bytes (Session.start ()) =
        (.returned (.ok (.text "Linkage")), Session.start ()) := by
  obtain ⟨⟨-, -, -, -, hread⟩, ⟨hname, -, -, hsays⟩, -, hother, -⟩ :=
    names_correspond "Linkage" (other "Linkage")
  have hb : linkage ∈ builtins := by decide
  obtain ⟨hrebuilt, hne⟩ := hother linkage hb
  have hsays' : Json.Says (String.ofList linkage.toJson.render).toUTF8 "Linkage" :=
    hrebuilt ▸ hsays
  obtain ⟨hkind, hdecode⟩ := hread _ hsays'
  have hcustom : custom "Linkage" = linkage := hrebuilt
  refine ⟨hb, hne, hrebuilt, hsays', hkind.trans (congrArg Except.ok hcustom), ?_⟩
  rw [hdecode Unit (Session.start ()), hname]

end Fallible
