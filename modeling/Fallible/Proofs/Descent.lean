import Fallible.Kind

/-!
# Descent among kinds

A kind descends from itself, its parent, the parent of that, and so on to the root. These ancestors
stand in a row, so of any two of them one descends from the other, and a kind cannot descend from
two kinds that do not.

## Main results

* `Kind.mem_lineage_iff`: a kind descends from the kinds of its lineage
* `Kind.isA_trans`: an ancestor of an ancestor is an ancestor
* `Kind.isA_or_isA`: of two ancestors of a kind one descends from the other
* `Kind.isA_antisymm`: no two kinds descend from each other
-/

namespace Fallible

namespace Kind

theorem lineage_eq (k : Kind) : k.lineage = k :: k.parent.elim [] lineage := by
  rw [lineage]
  split <;> rename_i h <;> rw [h] <;> rfl

theorem isA_eq (k a : Kind) :
    k.isA a = (a == any || k == a || k.parent.elim false fun p => p.isA a) := by
  rw [isA]
  split <;> rename_i h <;> rw [h] <;> rfl

theorem isA_self (k : Kind) : k.isA k = true := by
  rw [isA]
  simp

theorem isA_any (k : Kind) : k.isA any = true := by
  rw [isA_eq]
  rfl

/-- **A kind descends** from just the kinds of its lineage. -/
theorem mem_lineage_iff {k a : Kind} : a ∈ k.lineage ↔ k.isA a = true := by
  induction k using lineage.induct with
  | case1 k ih =>
    rw [lineage_eq, isA_eq]
    cases h : k.parent with
    | none =>
      -- only the root has no parent
      obtain rfl : k = any := by cases k <;> first | rfl | cases h
      simp only [Option.elim_none, List.mem_singleton, Bool.or_false, Bool.or_eq_true, beq_iff_eq]
      exact ⟨.inl, fun h => h.elim id Eq.symm⟩
    | some p =>
      have hp : p.isA any = true := p.isA_any
      simp only [Option.elim_some, List.mem_cons, ih p h, Bool.or_eq_true, beq_iff_eq]
      constructor
      · rintro (rfl | hi)
        · exact .inl (.inr rfl)
        · exact .inr hi
      · rintro ((rfl | rfl) | hi)
        · exact .inr hp
        · exact .inl rfl
        · exact .inr hi

/-- The ancestors of a kind are itself and those of its parent. -/
theorem isA_iff_eq_or {k a : Kind} :
    k.isA a = true ↔ k = a ∨ ∃ p, k.parent = some p ∧ p.isA a = true := by
  rw [← mem_lineage_iff, lineage_eq, List.mem_cons, eq_comm]
  refine or_congr_right ?_
  cases k.parent with
  | none => simp
  | some p => simp [mem_lineage_iff]

/-- An ancestor of an ancestor is an ancestor. -/
theorem isA_trans {k a b : Kind} (ha : k.isA a = true) (hb : a.isA b = true) : k.isA b = true := by
  induction k using lineage.induct with
  | case1 k ih =>
    obtain rfl | ⟨p, hp, hpa⟩ := isA_iff_eq_or.mp ha
    · exact hb
    · exact isA_iff_eq_or.mpr (.inr ⟨p, hp, ih p hp hpa⟩)

/-- **The ancestors of a kind stand in a row**: of any two, one descends from the other. -/
theorem isA_or_isA {k a b : Kind} (ha : k.isA a = true) (hb : k.isA b = true) :
    a.isA b = true ∨ b.isA a = true := by
  induction k using lineage.induct with
  | case1 k ih =>
    obtain rfl | ⟨p, hp, hpa⟩ := isA_iff_eq_or.mp ha
    · exact .inl hb
    obtain rfl | ⟨q, hq, hqb⟩ := isA_iff_eq_or.mp hb
    · exact .inr ha
    -- both are ancestors of the parent
    obtain rfl : p = q := Option.some.inj (hp.symm.trans hq)
    exact ih p hp hpa hqb

/-- An ancestor other than the kind itself lies nearer to the root. -/
theorem eq_or_depth_lt_of_isA {k a : Kind} (h : k.isA a = true) : k = a ∨ a.depth < k.depth := by
  induction k using lineage.induct with
  | case1 k ih =>
    obtain rfl | ⟨p, hp, hpa⟩ := isA_iff_eq_or.mp h
    · exact .inl rfl
    have hd := depth_of_parent hp
    obtain rfl | hlt := ih p hp hpa
    · exact .inr (by omega)
    · exact .inr (by omega)

/-- Two kinds that descend from each other are one kind. -/
theorem isA_antisymm {k a : Kind} (h : k.isA a = true) (h' : a.isA k = true) : k = a := by
  obtain rfl | hk := eq_or_depth_lt_of_isA h
  · rfl
  obtain rfl | ha := eq_or_depth_lt_of_isA h'
  · rfl
  · omega

end Kind

end Fallible
