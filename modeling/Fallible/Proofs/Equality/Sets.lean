import Fallible.Proofs.Equality.Lawful
import Mathlib.Data.List.Induction
import Mathlib.Data.List.Pairwise

/-!
# Members of hash sets

A hash set looks for a value among those whose digests come to the same number. It finds the equal
ones there if equal values have one digest, as they have in every nesting of attempts, maybes and
causes around a lawful payload. Of values that are equal it then keeps one, and how many it keeps
does not depend on the order in which they were inserted, nor on the numbers.

## Main definitions

* `Nesting`, `Nesting.Of`: attempts, maybes and causes within each other, around a payload
* `Hasher`, `setOf`: hash sets that know a value by its digest

## Main results

* `setOf_keeps_one`, `setOf_size_eq`: the members of a hash set
* `Value.insertAll_eq`, `Value.length_insertAll_eq`: a collection of distinct values takes what a
  hash set takes
* `Nesting.equality_lawful`: equality, digests and hash sets of nestings
-/

namespace Fallible

variable {α : Type}

/-! ## Nestings -/

/-- How attempts, maybes and causes stand in each other, down to a payload. -/
inductive Nesting where
  | payload
  | cause
  | attempt (of : Nesting)
  | maybe (of : Nesting)

namespace Nesting

/-- The values of a nesting around a payload. -/
def Of (α : Type) : Nesting → Type
  | payload => α
  | cause => Cause
  | attempt n => Attempt (n.Of α)
  | maybe n => Maybe (n.Of α)

/-- What is inside is compared as its own type prescribes. -/
@[reducible] def beqOf [BEq α] : (n : Nesting) → BEq (n.Of α)
  | payload => inferInstanceAs (BEq α)
  | cause => inferInstanceAs (BEq Cause)
  | attempt n =>
    have := n.beqOf
    inferInstanceAs (BEq (Attempt (n.Of α)))
  | maybe n =>
    have := n.beqOf
    inferInstanceAs (BEq (Maybe (n.Of α)))

instance [BEq α] (n : Nesting) : BEq (n.Of α) :=
  n.beqOf

/-- What is inside is hashed as its own type prescribes. -/
@[reducible] def digestibleOf [Digestible α] : (n : Nesting) → Digestible (n.Of α)
  | payload => inferInstanceAs (Digestible α)
  | cause => inferInstanceAs (Digestible Cause)
  | attempt n =>
    have := n.digestibleOf
    inferInstanceAs (Digestible (Attempt (n.Of α)))
  | maybe n =>
    have := n.digestibleOf
    inferInstanceAs (Digestible (Maybe (n.Of α)))

instance [Digestible α] (n : Nesting) : Digestible (n.Of α) :=
  n.digestibleOf

/-- **Nestings are compared by an equivalence** if their payloads are. -/
instance [BEq α] [EquivBEq α] (n : Nesting) : EquivBEq (n.Of α) := by
  induction n with
  | payload => exact inferInstanceAs (EquivBEq α)
  | cause => exact inferInstanceAs (EquivBEq Cause)
  | attempt n ih => exact inferInstanceAs (EquivBEq (Attempt (n.Of α)))
  | maybe n ih => exact inferInstanceAs (EquivBEq (Maybe (n.Of α)))

/-- **Equal nestings have one digest** if equal payloads have. -/
instance [BEq α] [Digestible α] [LawfulDigestible α] (n : Nesting) : LawfulDigestible (n.Of α) := by
  induction n with
  | payload => exact inferInstanceAs (LawfulDigestible α)
  | cause => exact inferInstanceAs (LawfulDigestible Cause)
  | attempt n ih => exact inferInstanceAs (LawfulDigestible (Attempt (n.Of α)))
  | maybe n ih => exact inferInstanceAs (LawfulDigestible (Maybe (n.Of α)))

end Nesting

/-! ## Hash sets -/

/-- A hash function: it makes a number of all that a value feeds to it. -/
class Hasher where
  finish : Digest → UInt64

/-- A hash function knows a value by its digest only. -/
instance [Hasher] [Digestible α] : Hashable α :=
  ⟨fun a => Hasher.finish (digest a)⟩

instance [Hasher] [BEq α] [Digestible α] [LawfulDigestible α] : LawfulHashable α :=
  ⟨fun _ _ h => congrArg Hasher.finish (digest_eq h)⟩

/-- The hash set into which the values of a list were inserted in order. -/
def setOf [Hasher] [BEq α] [Digestible α] (as : List α) : Std.HashSet α :=
  as.foldl (·.insert ·) ∅

/-- Values of which no two are equal are no more than those that they are equal to. -/
theorem length_le_of_distinct [BEq α] [EquivBEq α] {as bs : List α}
    (hd : as.Pairwise fun a b => (a == b) = false) (h : ∀ a ∈ as, ∃ b ∈ bs, (a == b) = true) :
    as.length ≤ bs.length := by
  induction as generalizing bs with
  | nil => exact Nat.zero_le _
  | cons a as ih =>
    obtain ⟨hda, hd⟩ := List.pairwise_cons.mp hd
    obtain ⟨b, hb, hab⟩ := h a List.mem_cons_self
    obtain ⟨before, after, rfl⟩ := List.append_of_mem hb
    -- what the others are equal to is left when this one is taken away
    have hrest : as.length ≤ (before ++ after).length := by
      refine ih hd fun x hx => ?_
      obtain ⟨y, hy, hxy⟩ := h x (List.mem_cons_of_mem a hx)
      obtain hy | hy := List.mem_append.mp hy
      · exact ⟨y, List.mem_append_left _ hy, hxy⟩
      obtain rfl | hy := List.mem_cons.mp hy
      · exact absurd (BEq.trans hab (BEq.symm hxy)) (Bool.eq_false_iff.mp (hda x hx))
      · exact ⟨y, List.mem_append_right _ hy, hxy⟩
    simp only [List.length_append, List.length_cons] at hrest ⊢
    omega

section Sets

variable [Hasher] [BEq α] [EquivBEq α] [Digestible α] [LawfulDigestible α]
variable {as bs : List α} {a b : α}

omit [EquivBEq α] [LawfulDigestible α] in
theorem setOf_concat : setOf (as ++ [a]) = (setOf as).insert a := by
  rw [setOf, List.foldl_append]
  rfl

/-- A value is found in a hash set just if an equal one was inserted. -/
theorem contains_setOf : (setOf as).contains a = as.any (a == ·) := by
  induction as using List.reverseRecOn with
  | nil => simp [setOf]
  | append_singleton as b ih =>
    rw [setOf_concat, Std.HashSet.contains_insert, ih, List.any_append, Bool.or_comm, BEq.comm]
    simp

/-- A hash set has no member that was not inserted. -/
theorem mem_of_mem_setOf (hb : b ∈ (setOf as).toList) : b ∈ as := by
  induction as using List.reverseRecOn with
  | nil => simp [setOf] at hb
  | append_singleton as a ih =>
    rw [setOf_concat, Std.HashSet.toList_insert_perm.mem_iff] at hb
    split at hb
    · exact List.mem_append_left _ (ih hb)
    · obtain rfl | hb := List.mem_cons.mp hb
      · exact List.mem_append_right _ List.mem_cons_self
      · exact List.mem_append_left _ (ih hb)

/-- A value that was inserted has a member of the hash set that equals it. -/
theorem exists_mem_setOf (ha : a ∈ as) : ∃ b ∈ (setOf as).toList, (a == b) = true := by
  rw [← List.any_eq_true, ← List.contains_eq_any_beq, Std.HashSet.contains_toList, contains_setOf,
    List.any_eq_true]
  exact ⟨a, ha, BEq.refl a⟩

/-- **A hash set keeps one** of the values inserted that are equal. -/
theorem setOf_keeps_one (ha : a ∈ as) : ∃! b, b ∈ (setOf as).toList ∧ (b == a) = true := by
  obtain ⟨b, hb, hab⟩ := exists_mem_setOf ha
  refine ⟨b, ⟨hb, BEq.symm hab⟩, fun d ⟨hd, hda⟩ => ?_⟩
  by_contra hne
  have : Std.Symm fun x y : α => (x == y) = false := ⟨fun x y h => BEq.comm.trans h⟩
  -- both equal one value, so they equal each other, and no two members do
  have hdistinct : (d == b) = false := Std.HashSet.distinct_toList.forall hd hb hne
  exact Bool.false_ne_true (hdistinct.symm.trans (BEq.trans hda hab))

/-- A hash set is no larger than another if every value inserted into it equals one that was
inserted into the other. -/
theorem setOf_size_le (h : ∀ a ∈ as, ∃ b ∈ bs, (a == b) = true) :
    (setOf as).size ≤ (setOf bs).size := by
  rw [← Std.HashSet.length_toList, ← Std.HashSet.length_toList]
  refine length_le_of_distinct Std.HashSet.distinct_toList fun a ha => ?_
  obtain ⟨b, hb, hab⟩ := h a (mem_of_mem_setOf ha)
  obtain ⟨d, hd, hbd⟩ := exists_mem_setOf hb
  exact ⟨d, hd, BEq.trans hab hbd⟩

/-- **The size of a hash set** does not depend on the order in which values were inserted. -/
theorem setOf_size_eq (h : as.Perm bs) : (setOf as).size = (setOf bs).size :=
  Nat.le_antisymm (setOf_size_le fun a ha => ⟨a, h.mem_iff.mp ha, BEq.refl a⟩)
    (setOf_size_le fun b hb => ⟨b, h.mem_iff.mpr hb, BEq.refl b⟩)

end Sets

/-! ## Collections of distinct values -/

/-- What a hash set says of each value of a list that is inserted: whether it is new. -/
def newTo [BEq α] [Hashable α] (s : Std.HashSet α) : List α → List Bool
  | [] => []
  | a :: as => (!s.contains a) :: newTo (s.insert a) as

namespace Value

section Collections

variable [Hasher] {seen : List Value} {s : Std.HashSet Value}

/-- A collection that holds what a hash set holds does so after the next value as well. -/
theorem any_insert (hseen : ∀ w, seen.any (beq · w) = s.contains w) (v w : Value) :
    (if !s.contains v then seen ++ [v] else seen).any (beq · w) = (s.insert v).contains w := by
  rw [Std.HashSet.contains_insert, ← hseen w]
  cases hv : s.contains v with
  | false =>
    rw [Bool.not_false, if_pos rfl, List.any_append, Bool.or_comm]
    simp only [List.any_cons, List.any_nil, Bool.or_false]
    rfl
  | true =>
    rw [Bool.not_true, if_neg Bool.false_ne_true]
    cases hvw : v == w with
    | false => rw [Bool.false_or]
    | true => rw [hseen w, ← Std.HashSet.contains_congr hvw, hv, Bool.or_true]

theorem length_insert (hsize : seen.length = s.size) (v : Value) :
    (if !s.contains v then seen ++ [v] else seen).length = (s.insert v).size := by
  rw [Std.HashSet.size_insert, ← hsize]
  simp only [Std.HashSet.mem_iff_contains]
  cases s.contains v <;> simp

/-- By induction on the values, where the collection and the hash set hold the same at each. -/
theorem insertAll_of_same (vs : List Value) (hseen : ∀ w, seen.any (beq · w) = s.contains w)
    (hsize : seen.length = s.size) :
    (insertAll seen vs).1 = newTo s vs ∧
      (insertAll seen vs).2.length = (vs.foldl (·.insert ·) s).size := by
  induction vs generalizing seen s with
  | nil => exact ⟨rfl, hsize⟩
  | cons v vs ih =>
    rw [insertAll, newTo, List.foldl_cons, hseen v]
    obtain ⟨hnew, hlength⟩ := ih (any_insert hseen v) (length_insert hsize v)
    exact ⟨congrArg _ hnew, hlength⟩

/-- **A collection of distinct values takes what a hash set takes**, whatever the hash function. -/
theorem insertAll_eq (vs : List Value) :
    (insertAll [] vs).1 = newTo ∅ vs ∧ (insertAll [] vs).2.length = (setOf vs).size :=
  insertAll_of_same vs (fun _ => Std.HashSet.contains_empty.symm) Std.HashSet.size_empty.symm

end Collections

/-- **The size of a collection of distinct values** does not depend on the order in which they
came. -/
theorem length_insertAll_eq {vs ws : List Value} (h : vs.Perm ws) :
    (insertAll [] vs).2.length = (insertAll [] ws).2.length := by
  have : Hasher := ⟨fun _ => 0⟩
  rw [(insertAll_eq vs).2, (insertAll_eq ws).2, setOf_size_eq h]

end Value

/-! ## All of it -/

/-- **Equality of nestings is lawful.** Let a payload be compared by an equivalence and let equal
payloads have one digest. However attempts, maybes and causes stand around it,

* equality is an equivalence: failures are equal just if their causes are the same condition, so
  those of two causes that were raised apart are not, even if these say the same, and a success
  never equals a failure;
* equal values have one digest;
* a hash set into which such values are inserted keeps exactly one of those that are equal, and its
  size does not depend on the order in which they come. -/
theorem Nesting.equality_lawful [BEq α] [EquivBEq α] [Digestible α] [LawfulDigestible α]
    (n : Nesting) :
    ((∀ a : n.Of α, (a == a) = true) ∧
      (∀ a b : n.Of α, (a == b) = true → (b == a) = true) ∧
      (∀ a b c : n.Of α, (a == b) = true → (b == c) = true → (a == c) = true)) ∧
    ((∀ c d : Captured,
        ((.failure c : Attempt (n.Of α)) == .failure d) = true ↔ c.cause.id = d.cause.id) ∧
      (∀ (σ : Type) (kind : Kind) (message : Option String) (s : Session σ), ∃ c d s' s'',
        Cause.raise kind message s = (.returned c, s') ∧
        Cause.raise kind message s' = (.returned d, s'') ∧
        ((.failure ⟨c⟩ : Attempt (n.Of α)) == .failure ⟨d⟩) = false) ∧
      ∀ (a : n.Of α) (c : Captured),
        (Attempt.success a == .failure c) = false ∧ (.failure c == Attempt.success a) = false) ∧
    (∀ a b : n.Of α, (a == b) = true → digest a = digest b) ∧
    ∀ [Hasher] (as : List (n.Of α)),
      (∀ a ∈ as, ∃! b, b ∈ (setOf as).toList ∧ (b == a) = true) ∧
      (∀ b ∈ (setOf as).toList, b ∈ as) ∧
      (setOf as).size = (setOf as).toList.length ∧
      ∀ bs, as.Perm bs → (setOf as).size = (setOf bs).size := by
  refine ⟨⟨fun a => BEq.refl a, fun a b h => BEq.symm h, fun a b c h h' => BEq.trans h h'⟩,
    ⟨fun c d => Cause.beq_iff, ?_, fun a c => ⟨rfl, rfl⟩⟩, fun a b h => digest_eq h, ?_⟩
  · intro σ kind message s
    exact Cause.beq_raised kind message s
  · intro _ as
    exact ⟨fun a ha => setOf_keeps_one ha, fun b hb => mem_of_mem_setOf hb,
      Std.HashSet.length_toList.symm, fun bs h => setOf_size_eq h⟩

/-- Of two failures that say the same, one is inserted twice: it is kept once beside the other. -/
theorem Nesting.failures_apart_in_set :
    let _ : Hasher := ⟨fun d => d.length.toUInt64⟩
    let gone : Nat → Captured := fun id => ⟨{ condition := { id, kind := .io, message := "gone" } }⟩
    let first : (Nesting.attempt (.maybe .payload)).Of Value := Attempt.failure (gone 0)
    let second : (Nesting.attempt (.maybe .payload)).Of Value := Attempt.failure (gone 1)
    EquivBEq Value ∧ LawfulDigestible Value ∧ (first == second) = false ∧
      (∃! b, b ∈ (setOf [first, second, first]).toList ∧ (b == first) = true) ∧
      (setOf [first, second, first]).size = (setOf [first, first, second]).size := by
  intro _ gone first second
  obtain ⟨-, ⟨hfailures, -⟩, -, -⟩ := Nesting.equality_lawful (α := Value) (.maybe .payload)
  obtain ⟨-, -, -, hsets⟩ := Nesting.equality_lawful (α := Value) (.attempt (.maybe .payload))
  obtain ⟨hone, -, -, hsize⟩ := hsets [first, second, first]
  refine ⟨inferInstance, inferInstance, ?_, hone first List.mem_cons_self, hsize _ ?_⟩
  · exact Bool.eq_false_iff.mpr fun h => Nat.zero_ne_one ((hfailures (gone 0) (gone 1)).mp h)
  · exact (List.Perm.swap first second []).cons first

end Fallible
