import Fallible.Classifier
import Fallible.Proofs.Config.Edits
import Mathlib.Tactic.Push

/-!
# Policies compared

A policy finds fatal whatever another does just if it subsumes it: each kind that the other lists
descends from one that it lists. So two policies judge alike just if each subsumes the other. The
order of a list does not matter for this, and neither do the kinds in it that descend from others;
without them there is only one list for each way of judging, up to its order.

## Main definitions

* `Policy.Subsumes`, `Policy.Alike`: how policies compare by their lists, and by their judgements
* `Policy.core`: a policy without the kinds that descend from others it lists

## Main results

* `Policy.subsumes_iff`, `Policy.alike_iff`: judgements compare as the lists do
* `Policy.alike_iff_perm_core`: policies judge alike just if they list the same uppermost kinds
* `Policy.withKind_alike_iff`, `Policy.withoutKind_alike_iff`: the edits that change no judgement
* `Policy.compared_by_subsumption`: all of it
-/

namespace Fallible

namespace Policy

variable {p q : Policy} {k a : Kind}

/-! ## Subsumption -/

/-- Each kind that `p` lists descends from one that `q` lists. -/
def Subsumes (q p : Policy) : Prop :=
  ∀ k ∈ p.kinds, ∃ a ∈ q.kinds, k.isA a = true

/-- The two policies find the same causes fatal. -/
def Alike (p q : Policy) : Prop :=
  ∀ c : Cause, p.classifier.isFatal c = q.classifier.isFatal c

theorem isFatal_iff_exists_isA : p.isFatal k = true ↔ ∃ a ∈ p.kinds, k.isA a = true := by
  rw [isFatal, List.any_eq_true]

theorem subsumes_of_subset (h : ∀ k ∈ p.kinds, k ∈ q.kinds) : q.Subsumes p :=
  fun k hk => ⟨k, h k hk, k.isA_self⟩

theorem Subsumes.isFatal (h : q.Subsumes p) (hk : p.isFatal k = true) : q.isFatal k = true := by
  obtain ⟨a, ha, hka⟩ := isFatal_iff_exists_isA.mp hk
  obtain ⟨b, hb, hab⟩ := h a ha
  exact isFatal_iff_exists_isA.mpr ⟨b, hb, Kind.isA_trans hka hab⟩

/-- **A policy finds fatal whatever another does** just if it subsumes it. -/
theorem subsumes_iff :
    q.Subsumes p ↔ ∀ c : Cause, p.classifier.isFatal c = true → q.classifier.isFatal c = true := by
  constructor
  · intro h c hc
    exact h.isFatal hc
  · intro h k hk
    -- a cause of the listed kind is fatal for `p`
    let c : Cause := { condition := { id := 0, kind := k, message := none } }
    exact isFatal_iff_exists_isA.mp (h c (isFatal_of_mem hk))

/-- **Policies judge alike** just if each subsumes the other. -/
theorem alike_iff : Alike p q ↔ p.Subsumes q ∧ q.Subsumes p := by
  rw [subsumes_iff, subsumes_iff]
  constructor
  · intro h
    exact ⟨fun c hc => (h c).trans hc, fun c hc => (h c).symm.trans hc⟩
  · rintro ⟨hq, hp⟩ c
    exact Bool.eq_iff_iff.mpr ⟨hp c, hq c⟩

theorem Alike.symm (h : Alike p q) : Alike q p :=
  fun c => (h c).symm

theorem alike_of_perm (h : p.kinds.Perm q.kinds) : Alike p q :=
  alike_iff.mpr
    ⟨subsumes_of_subset fun _ => h.mem_iff.mpr, subsumes_of_subset fun _ => h.mem_iff.mp⟩

/-! ## The uppermost kinds -/

/-- The policy without the kinds that descend from another kind in its list. -/
def core (p : Policy) : Policy :=
  ⟨p.kinds.filter fun k => p.kinds.all fun a => !k.isA a || a == k, p.nodup.filter _⟩

theorem mem_kinds_core :
    k ∈ p.core.kinds ↔ k ∈ p.kinds ∧ ∀ a ∈ p.kinds, k.isA a = true → a = k := by
  rw [core, List.mem_filter, List.all_eq_true]
  refine and_congr_right fun _ => forall₂_congr fun a _ => ?_
  cases k.isA a <;> simp

/-- Each listed kind descends from an uppermost one: going up ends, as ancestors lie nearer to the
root. -/
theorem exists_mem_core (hk : k ∈ p.kinds) : ∃ a ∈ p.core.kinds, k.isA a = true := by
  induction hd : k.depth using Nat.strongRecOn generalizing k with
  | ind d ih =>
    by_cases h : ∃ a ∈ p.kinds, k.isA a = true ∧ a ≠ k
    · obtain ⟨a, ha, hka, hne⟩ := h
      obtain rfl | hlt := Kind.eq_or_depth_lt_of_isA hka
      · exact absurd rfl hne
      obtain ⟨b, hb, hab⟩ := ih a.depth (hd ▸ hlt) ha rfl
      exact ⟨b, hb, Kind.isA_trans hka hab⟩
    · push Not at h
      exact ⟨k, mem_kinds_core.mpr ⟨hk, h⟩, k.isA_self⟩

/-- Kinds that descend from others in the list do not matter. -/
theorem core_alike (p : Policy) : Alike p.core p :=
  alike_iff.mpr
    ⟨fun _ => exists_mem_core, subsumes_of_subset fun _ hk => (mem_kinds_core.mp hk).1⟩

/-- An uppermost kind of a policy is uppermost in every policy that judges alike: going up from it
by the other list, and then by its own, comes back to it. -/
theorem Alike.mem_kinds_core (h : Alike p q) (hk : k ∈ p.core.kinds) : k ∈ q.core.kinds := by
  obtain ⟨hkp, hup⟩ := Policy.mem_kinds_core.mp hk
  obtain ⟨hpq, hqp⟩ := alike_iff.mp h
  have hmem : ∀ a ∈ q.kinds, k.isA a = true → a = k := by
    intro a ha hka
    obtain ⟨b, hb, hab⟩ := hpq a ha
    obtain rfl := hup b hb (Kind.isA_trans hka hab)
    exact Kind.isA_antisymm hab hka
  obtain ⟨a, ha, hka⟩ := hqp k hkp
  exact Policy.mem_kinds_core.mpr ⟨hmem a ha hka ▸ ha, hmem⟩

/-- **Policies judge alike** just if they list the same uppermost kinds, in whatever order. -/
theorem alike_iff_perm_core : Alike p q ↔ p.core.kinds.Perm q.core.kinds := by
  constructor
  · intro h
    exact (List.perm_ext_iff_of_nodup p.core.nodup q.core.nodup).mpr fun k =>
      ⟨h.mem_kinds_core, h.symm.mem_kinds_core⟩
  · intro h c
    rw [← p.core_alike c, alike_of_perm h c, q.core_alike c]

/-- Running out of memory is a fault of the machine, so a list that has both has one too many. -/
example : (ofList [.outOfMemory, .virtualMachine]).core.kinds = [.virtualMachine] := by cbv

/-! ## Edits -/

theorem withKind_subsumes (p : Policy) (k : Kind) : (p.withKind k).Subsumes p :=
  subsumes_of_subset fun _ h => mem_kinds_withKind.mpr (.inl h)

theorem subsumes_withoutKind (p : Policy) (k : Kind) : p.Subsumes (p.withoutKind k) :=
  subsumes_of_subset fun _ h => (mem_kinds_withoutKind.mp h).1

/-- **Listing a kind** changes no judgement just if it descends from a kind that is listed. -/
theorem withKind_alike_iff : Alike (p.withKind k) p ↔ ∃ a ∈ p.kinds, k.isA a = true := by
  rw [alike_iff, and_iff_right (p.withKind_subsumes k)]
  constructor
  · intro h
    exact h k (mem_kinds_withKind.mpr (.inr rfl))
  · intro h a ha
    obtain ha | rfl := mem_kinds_withKind.mp ha
    · exact ⟨a, ha, a.isA_self⟩
    · exact h

/-- **Taking a listed kind away** changes no judgement just if another kind that is listed is an
ancestor of it. -/
theorem withoutKind_alike_iff (hk : k ∈ p.kinds) :
    Alike (p.withoutKind k) p ↔ ∃ a ∈ p.kinds, a ≠ k ∧ k.isA a = true := by
  rw [alike_iff, and_iff_left (p.subsumes_withoutKind k)]
  constructor
  · intro h
    obtain ⟨a, ha, hka⟩ := h k hk
    obtain ⟨ha, hne⟩ := mem_kinds_withoutKind.mp ha
    exact ⟨a, ha, hne, hka⟩
  · rintro ⟨a, ha, hne, hka⟩ b hb
    by_cases hbk : b = k
    · exact ⟨a, mem_kinds_withoutKind.mpr ⟨ha, hne⟩, hbk ▸ hka⟩
    · exact ⟨b, mem_kinds_withoutKind.mpr ⟨hb, hbk⟩, b.isA_self⟩

/-! ## Comparing policies -/

/-- **Policies are compared by subsumption.**

* One finds fatal whatever the other does just if each kind that the other lists descends from one
  that it lists, and two find the same causes fatal just if this holds both ways.
* The order of a list does not matter, nor do kinds that descend from others in it: a policy judges
  as its uppermost kinds do, and two policies judge alike just if these are the same.
* Listing a kind as well makes no cause less fatal, and taking one away makes none more so. Listing
  a kind changes nothing just if it descends from a listed one, and taking a listed kind away just
  if another listed kind is an ancestor of it. -/
theorem compared_by_subsumption (p q : Policy) :
    ((∀ c : Cause, p.classifier.isFatal c = true → q.classifier.isFatal c = true) ↔
      ∀ k ∈ p.kinds, ∃ a ∈ q.kinds, k.isA a = true) ∧
    (Alike p q ↔ p.Subsumes q ∧ q.Subsumes p) ∧
    (p.kinds.Perm q.kinds → Alike p q) ∧
    Alike p.core p ∧
    (Alike p q ↔ p.core.kinds.Perm q.core.kinds) ∧
    ∀ k,
      (∀ c : Cause, p.classifier.isFatal c = true → (p.withKind k).classifier.isFatal c = true) ∧
      (∀ c : Cause, (p.withoutKind k).classifier.isFatal c = true →
        p.classifier.isFatal c = true) ∧
      (Alike (p.withKind k) p ↔ ∃ a ∈ p.kinds, k.isA a = true) ∧
      (k ∈ p.kinds →
        (Alike (p.withoutKind k) p ↔ ∃ a ∈ p.kinds, a ≠ k ∧ k.isA a = true)) := by
  refine ⟨subsumes_iff.symm, alike_iff, alike_of_perm, p.core_alike, alike_iff_perm_core, ?_⟩
  intro k
  exact ⟨subsumes_iff.mp (p.withKind_subsumes k), subsumes_iff.mp (p.subsumes_withoutKind k),
    withKind_alike_iff, withoutKind_alike_iff⟩

end Policy

end Fallible
