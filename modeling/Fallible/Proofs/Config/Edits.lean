import Fallible.Config.Basic
import Fallible.Proofs.Judgement

/-!
# What a policy lists, and what it finds fatal

A policy is put together by listing kinds and by taking kinds away. Listing one kind after the other
leaves every kind at its first place; taking kinds away leaves the others as they stand. What is
listed makes fatal all that descends from it, itself included, so a kind that was taken away may
still be fatal by one of its ancestors.

## Main definitions

* `Config.table`: the table of a configuration that describes a policy

## Main results

* `Policy.kinds_foldl_withKind`, `Policy.kinds_foldl_withoutKind`: listing and taking away
* `Policy.isFatal_iff`: what a policy finds fatal
* `Config.Fatal.kinds_policy`: the kinds of the policy that a table describes
-/

namespace Fallible

/-! ## Edits -/

namespace Policy

theorem eraseDups_of_nodup {ks : List Kind} (h : ks.Nodup) : ks.eraseDups = ks := by
  induction ks with
  | nil => rfl
  | cons k ks ih =>
    obtain ⟨hk, hks⟩ := List.nodup_cons.mp h
    have hf : ks.filter (fun a => !a == k) = ks := by
      refine List.filter_eq_self.mpr fun a ha => ?_
      rw [Bool.not_eq_true', beq_eq_false_iff_ne]
      rintro rfl
      exact hk ha
    rw [List.eraseDups_cons, hf, ih hks]

theorem kinds_withKind_of_mem {p : Policy} {k : Kind} (h : k ∈ p.kinds) :
    (p.withKind k).kinds = p.kinds := by
  rw [withKind, dif_pos h]

theorem kinds_withKind_of_not_mem {p : Policy} {k : Kind} (h : k ∉ p.kinds) :
    (p.withKind k).kinds = p.kinds ++ [k] := by
  rw [withKind, dif_neg h]

theorem mem_kinds_withKind {p : Policy} {k a : Kind} :
    a ∈ (p.withKind k).kinds ↔ a ∈ p.kinds ∨ a = k := by
  by_cases h : k ∈ p.kinds
  · rw [kinds_withKind_of_mem h]
    exact ⟨.inl, fun ha => ha.elim id (· ▸ h)⟩
  · rw [kinds_withKind_of_not_mem h, List.mem_append, List.mem_singleton]

theorem mem_kinds_withoutKind {p : Policy} {k a : Kind} :
    a ∈ (p.withoutKind k).kinds ↔ a ∈ p.kinds ∧ a ≠ k := by
  rw [withoutKind, List.mem_filter, bne_iff_ne]

/-- **Listing kinds** one after the other leaves each at its first place. -/
theorem kinds_foldl_withKind (ks : List Kind) (p : Policy) :
    (ks.foldl withKind p).kinds = (p.kinds ++ ks).eraseDups := by
  induction ks generalizing p with
  | nil => rw [List.append_nil, eraseDups_of_nodup p.nodup, List.foldl_nil]
  | cons k ks ih =>
    rw [List.foldl_cons, ih]
    by_cases h : k ∈ p.kinds
    · -- the kind is listed already, and so it is dropped as a duplicate
      have hr : (k :: ks).removeAll p.kinds = ks.removeAll p.kinds := by simp [List.removeAll, h]
      rw [kinds_withKind_of_mem h, List.eraseDups_append, List.eraseDups_append, hr]
    · rw [kinds_withKind_of_not_mem h, List.append_assoc, List.singleton_append]

/-- **Taking kinds away** leaves the others in order. -/
theorem kinds_foldl_withoutKind (xs : List Kind) (p : Policy) :
    (xs.foldl withoutKind p).kinds = p.kinds.filter (· ∉ xs) := by
  induction xs generalizing p with
  | nil => exact (List.filter_eq_self.mpr fun k _ => by simp).symm
  | cons x xs ih =>
    rw [List.foldl_cons, ih, withoutKind, List.filter_filter]
    refine List.filter_congr fun k _ => ?_
    by_cases hx : k = x <;> simp [hx]

theorem kinds_standard : standard.kinds = defaultKinds := by
  decide

/-- **What a policy finds fatal**: a kind that descends from a listed one. -/
theorem isFatal_iff {p : Policy} {k : Kind} :
    p.isFatal k = true ↔ ∃ a ∈ p.kinds, a ∈ k.lineage := by
  rw [isFatal, List.any_eq_true]
  exact exists_congr fun a => and_congr_right fun _ => Kind.mem_lineage_iff.symm

/-- A kind that is not listed is fatal only by an ancestor other than itself. -/
theorem isFatal_iff_of_not_mem {p : Policy} {k : Kind} (h : k ∉ p.kinds) :
    p.isFatal k = true ↔ ∃ a ∈ p.kinds, a ∈ k.lineage.tail := by
  rw [isFatal_iff, Kind.lineage_eq, List.tail_cons]
  refine exists_congr fun a => and_congr_right fun ha => ?_
  rw [List.mem_cons, or_iff_right]
  rintro rfl
  exact h ha

end Policy

/-! ## Tables that describe a policy -/

namespace Config

/-- **The kinds of the policy** that a table describes: those by default, if they are included, and
then those to add, each at its first place, without those to take away. -/
theorem Fatal.kinds_policy (f : Fatal) :
    f.policy.kinds =
      (((if f.includeDefaults then Policy.defaultKinds else []) ++ f.kinds).eraseDups.filter
        (· ∉ f.exclude)) := by
  rw [Fatal.policy, Policy.kinds_foldl_withoutKind, Policy.kinds_foldl_withKind]
  cases f.includeDefaults with
  | false => rfl
  | true => rw [if_pos rfl, if_pos rfl, Policy.kinds_standard]

/-- Taking away wins over adding and over the defaults. -/
theorem Fatal.mem_kinds_policy_iff {f : Fatal} {k : Kind} :
    k ∈ f.policy.kinds ↔
      ((f.includeDefaults = true ∧ k ∈ Policy.defaultKinds) ∨ k ∈ f.kinds) ∧ k ∉ f.exclude := by
  rw [Fatal.kinds_policy, List.mem_filter, List.mem_eraseDups, List.mem_append, decide_eq_true_eq]
  cases f.includeDefaults <;> simp

/-- The table of a configuration that describes a policy; where none does, one without entries. -/
def table (c : Config) : Fatal :=
  c.fatal.getD {}

theorem policy_eq (c : Config) : c.policy = c.table.policy := by
  rw [policy, table]
  cases c.fatal <;> rfl

end Config

end Fallible
