import Fallible.Proofs.Descent
import Mathlib.Data.List.Chain

/-!
# The tree of kinds

The lineage of a kind is the path from it to the root: it steps from a kind to its parent, comes by
no kind twice and ends at the root. To descend from a kind is to have it on this path, so descent is
an order of a tree. The caller-defined kinds are leaves of that tree, each right under `exception`,
and a name that a built-in kind has as well makes no difference.

## Main results

* `Kind.isChain_lineage`, `Kind.nodup_lineage`, `Kind.getLast?_lineage`: the lineage is the path to
  the root
* `Kind.isA_eq_any_tail`: two kinds are looked for before the path is
* `Kind.other_isA_iff`, `Kind.isA_other_iff`: the caller-defined kinds are leaves
* `Kind.isA_orders_tree`: all of it
-/

namespace Fallible

namespace Kind

variable {k a : Kind} {name : String}

/-! ## The path to the root -/

theorem parent_eq_none_iff : k.parent = none ↔ k = any := by
  cases k <;> simp [parent]

theorem head?_lineage (k : Kind) : k.lineage.head? = some k := by
  rw [lineage_eq]
  rfl

/-- **A lineage steps from a kind to its parent.** -/
theorem isChain_lineage (k : Kind) : k.lineage.IsChain fun c p => c.parent = some p := by
  induction k using lineage.induct with
  | case1 k ih =>
    rw [lineage_eq]
    cases h : k.parent with
    | none => exact .singleton k
    | some p =>
      -- the lineage of the parent begins with the parent
      have hp := ih p h
      rw [lineage_eq] at hp
      rw [Option.elim_some, lineage_eq]
      exact .cons_cons h hp

/-- **A lineage holds no kind twice**, as each step leads nearer to the root. -/
theorem nodup_lineage (k : Kind) : k.lineage.Nodup := by
  induction k using lineage.induct with
  | case1 k ih =>
    rw [lineage_eq]
    cases h : k.parent with
    | none => simp
    | some p =>
      refine List.nodup_cons.mpr ⟨fun hk => ?_, ih p h⟩
      -- the kind would lie no farther from the root than its parent
      have hd := depth_of_parent h
      obtain rfl | hlt := eq_or_depth_lt_of_isA (mem_lineage_iff.mp hk)
      · omega
      · omega

/-- **A lineage ends at the root.** -/
theorem getLast?_lineage (k : Kind) : k.lineage.getLast? = some any := by
  induction k using lineage.induct with
  | case1 k ih =>
    rw [lineage_eq]
    cases h : k.parent with
    | none => rw [parent_eq_none_iff.mp h]; rfl
    | some p =>
      have hp := ih p h
      rw [lineage_eq] at hp
      rw [Option.elim_some, lineage_eq, List.getLast?_cons_cons]
      exact hp

/-- **Two kinds are looked for at once**, the root and the kind itself; only then are the other
kinds of the lineage gone through, and it comes to the same. -/
theorem isA_eq_any_tail (k a : Kind) :
    k.isA a = (a == any || k == a || k.lineage.tail.any (· == a)) := by
  have ha : k.isA any = true := k.isA_any
  refine Bool.eq_iff_iff.mpr ?_
  rw [← mem_lineage_iff, lineage_eq, List.tail_cons]
  simp only [List.mem_cons, Bool.or_eq_true, beq_iff_eq, List.any_eq_true, exists_eq_right]
  constructor
  · rintro (rfl | h)
    · exact .inl (.inr rfl)
    · exact .inr h
  · rintro ((rfl | rfl) | h)
    · rw [← mem_lineage_iff, lineage_eq, List.mem_cons] at ha
      exact ha
    · exact .inl rfl
    · exact .inr h

/-! ## Caller-defined kinds -/

/-- **A caller-defined kind descends** from itself, from `exception` and from the root. -/
theorem other_isA_iff : (other name).isA a = true ↔ a = other name ∨ a = exception ∨ a = any := by
  rw [← mem_lineage_iff]
  simp [lineage_eq, parent]

/-- **Nothing descends from a caller-defined kind** but that kind. -/
theorem isA_other_iff : k.isA (other name) = true ↔ k = other name := by
  constructor
  · intro h
    induction k using lineage.induct with
    | case1 k ih =>
      obtain rfl | ⟨p, hp, hpo⟩ := isA_iff_eq_or.mp h
      · rfl
      · -- the parent would be caller-defined, and no parent is
        obtain rfl := ih p hp hpo
        cases k <;> cases hp
  · rintro rfl
    exact isA_self _

/-! ## The order -/

/-- **Descent is the order of a tree.**

* A kind descends from just the kinds of its lineage, and the root and the kind itself are found
  without going through it.
* The lineage starts at the kind, steps from each kind to its parent, holds none twice and ends at
  the root.
* Descent is reflexive, transitive and antisymmetric, the root is its greatest element, and two
  ancestors of one kind are comparable.
* A caller-defined kind, whatever its name, descends from itself, from `exception` and from the root
  only, and is the ancestor of itself only. -/
theorem isA_orders_tree (k a b : Kind) (name : String) :
    (k.isA a = true ↔ a ∈ k.lineage) ∧
    k.isA a = (a == any || k == a || k.lineage.tail.any (· == a)) ∧
    (k.lineage.head? = some k ∧ k.lineage.IsChain (fun c p => c.parent = some p) ∧
      k.lineage.Nodup ∧ k.lineage.getLast? = some any) ∧
    (k.isA k = true ∧
      (k.isA a = true → a.isA b = true → k.isA b = true) ∧
      (k.isA a = true → a.isA k = true → k = a) ∧
      k.isA any = true ∧
      (k.isA a = true → k.isA b = true → a.isA b = true ∨ b.isA a = true)) ∧
    ((other name).isA a = true ↔ a = other name ∨ a = exception ∨ a = any) ∧
    (k.isA (other name) = true ↔ k = other name) :=
  ⟨mem_lineage_iff.symm, k.isA_eq_any_tail a,
    ⟨k.head?_lineage, k.isChain_lineage, k.nodup_lineage, k.getLast?_lineage⟩,
    ⟨k.isA_self, isA_trans, isA_antisymm, k.isA_any, isA_or_isA⟩, other_isA_iff, isA_other_iff⟩

/-- Running out of memory is a fault of the machine, which is a fault of the environment. A kind
that a caller gave the name of the latter is not one, and running out of memory is not of it. -/
theorem outOfMemory_in_tree :
    (outOfMemory.isA virtualMachine = true ∧ virtualMachine.isA fault = true ∧
      outOfMemory.isA fault = true) ∧
    (other "Fault").isA fault = false ∧ outOfMemory.isA (other "Fault") = false := by
  obtain ⟨hm, -, -, ⟨-, htrans, -⟩, -, ho⟩ :=
    isA_orders_tree outOfMemory virtualMachine fault "Fault"
  obtain ⟨hf, -, -, -, hn, -⟩ := isA_orders_tree virtualMachine fault fault "Fault"
  have hvm : outOfMemory.isA virtualMachine = true := hm.mpr (by simp [lineage_eq, parent])
  have hvf : virtualMachine.isA fault = true := hf.mpr (by simp [lineage_eq, parent])
  refine ⟨⟨hvm, hvf, htrans hvm hvf⟩, ?_, ?_⟩
  · exact Bool.eq_false_iff.mpr (mt hn.mp (by decide))
  · exact Bool.eq_false_iff.mpr (mt ho.mp (by decide))

end Kind

end Fallible
