import Fallible.Value

/-!
# Lawful equality

Attempts and maybes are compared inside, and causes by identity wherever they stand. Where what is
inside is compared by an equivalence and equal values have one digest, the same holds of what is
around it. Values of no fixed type are compared and hashed as if their causes said nothing at all,
so they are as lawful.

## Main definitions

* `LawfulDigestible`: types whose equal values have one digest
* `Value.faceless`: a value without what its causes say

## Main results

* `Cause.beq_raised`: causes that were raised one after the other are never equal
* `Value.beq_iff_faceless`, `Value.digest_faceless`: what a value is compared and hashed by
* `Value.beq_ofAttempt`, `Value.beq_ofMaybe`, …: as a value, an attempt or a maybe is compared and
  hashed as before
-/

namespace Fallible

/-- Types whose equal values feed the same to a hash function. -/
class LawfulDigestible (α : Type) [BEq α] [Digestible α] : Prop where
  digest_eq : ∀ {a b : α}, (a == b) = true → digest a = digest b

export LawfulDigestible (digest_eq)

/-! ## Causes -/

namespace Cause

theorem beq_iff {c d : Cause} : (c == d) = true ↔ c.id = d.id := by
  show (c.id == d.id) = true ↔ _
  exact beq_iff_eq

instance : EquivBEq Cause where
  rfl := beq_iff.mpr rfl
  symm h := beq_iff.mpr (beq_iff.mp h).symm
  trans h h' := beq_iff.mpr ((beq_iff.mp h).trans (beq_iff.mp h'))

instance : LawfulDigestible Cause where
  digest_eq h := congrArg (fun id => [Digest.Piece.identity id]) (beq_iff.mp h)

/-- **Causes that were raised one after the other** are not equal, even if they say the same. -/
theorem beq_raised {σ : Type} (kind : Kind) (message : Option String) (s : Session σ) :
    ∃ c d s' s'', raise kind message s = (.returned c, s') ∧
      raise kind message s' = (.returned d, s'') ∧ (c == d) = false := by
  refine ⟨_, _, _, _, rfl, rfl, Bool.eq_false_iff.mpr fun h => ?_⟩
  exact Nat.ne_of_lt (Nat.lt_succ_self s.next) (beq_iff.mp h)

end Cause

/-! ## Attempts and maybes -/

section Inside

variable {α : Type}

namespace Attempt

instance [BEq α] [EquivBEq α] : EquivBEq (Attempt α) where
  rfl {t} := by
    cases t with
    | success a => exact BEq.refl a
    | failure c => exact BEq.refl c.cause
  symm {t u} h := by
    cases t <;> cases u
    case success.success a b => exact BEq.symm (α := α) h
    case failure.failure c d => exact BEq.symm (α := Cause) h
    all_goals cases h
  trans {t u v} h h' := by
    cases t <;> cases u
    case success.success a b =>
      cases v with
      | success d => exact BEq.trans (α := α) h h'
      | failure d => cases h'
    case failure.failure c d =>
      cases v with
      | success a => cases h'
      | failure e => exact BEq.trans (α := Cause) h h'
    all_goals cases h

instance [BEq α] [Digestible α] [LawfulDigestible α] : LawfulDigestible (Attempt α) where
  digest_eq {t u} h := by
    cases t <;> cases u
    case success.success a b => exact congrArg (Digest.salt ++ ·) (digest_eq (α := α) h)
    case failure.failure c d => exact digest_eq (α := Cause) h
    all_goals cases h

end Attempt

namespace Maybe

instance [BEq α] [EquivBEq α] : EquivBEq (Maybe α) where
  rfl {m} := by
    cases m with
    | present a => exact BEq.refl a
    | absent => rfl
  symm {m n} h := by
    cases m <;> cases n
    case present.present a b => exact BEq.symm (α := α) h
    case absent.absent => rfl
    all_goals cases h
  trans {m n o} h h' := by
    cases m <;> cases n
    case present.present a b =>
      cases o with
      | present d => exact BEq.trans (α := α) h h'
      | absent => cases h'
    case absent.absent => exact h'
    all_goals cases h

instance [BEq α] [Digestible α] [LawfulDigestible α] : LawfulDigestible (Maybe α) where
  digest_eq {m n} h := by
    cases m <;> cases n
    case present.present a b => exact congrArg (Digest.salt ++ ·) (digest_eq (α := α) h)
    case absent.absent => rfl
    all_goals cases h

end Maybe

end Inside

/-! ## Values of no fixed type -/

/-- A cause without what it says: only its identity is left. -/
def Cause.faceless (c : Cause) : Cause where
  condition := { id := c.id, kind := .any, message := none }

theorem Cause.beq_iff_faceless {c d : Cause} : (c == d) = true ↔ c.faceless = d.faceless := by
  rw [beq_iff]
  simp [faceless]

namespace Value

mutual

/-- A value without what its causes say: only their identities are left. -/
def faceless : Value → Value
  | list items => list (facelessItems items)
  | map entries => map (facelessEntries entries)
  | some v => some (faceless v)
  | success v => success (faceless v)
  | failure c => failure ⟨c.cause.faceless⟩
  | present v => present (faceless v)
  | cause c => cause c.faceless
  | v => v

/-- The items of a list without what their causes say. -/
def facelessItems : List Value → List Value
  | [] => []
  | v :: vs => faceless v :: facelessItems vs

/-- The entries of a map without what their causes say. -/
def facelessEntries : List (Value × Value) → List (Value × Value)
  | [] => []
  | (k, v) :: entries => (faceless k, faceless v) :: facelessEntries entries

end

theorem length_facelessItems (vs : List Value) : (facelessItems vs).length = vs.length := by
  induction vs with
  | nil => rfl
  | cons v vs ih => rw [facelessItems, List.length_cons, ih, List.length_cons]

theorem length_facelessEntries (entries : List (Value × Value)) :
    (facelessEntries entries).length = entries.length := by
  induction entries with
  | nil => rfl
  | cons entry entries ih => rw [facelessEntries, List.length_cons, ih, List.length_cons]

mutual

/-- **Values are equal** just if they are the same up to what their causes say. -/
theorem beq_iff_faceless : ∀ v w : Value, beq v w = true ↔ v.faceless = w.faceless
  | unit, w => by cases w <;> simp [beq, faceless]
  | bool _, w => by cases w <;> simp [beq, faceless]
  | int _, w => by cases w <;> simp [beq, faceless]
  | text _, w => by cases w <;> simp [beq, faceless]
  | none, w => by cases w <;> simp [beq, faceless]
  | absent, w => by cases w <;> simp [beq, faceless]
  | list vs, w => by cases w <;> simp [beq, faceless, beqList_iff_faceless vs]
  | map entries, w => by cases w <;> simp [beq, faceless, beqEntries_iff_faceless entries]
  | some v, w => by cases w <;> simp [beq, faceless, beq_iff_faceless v]
  | success v, w => by cases w <;> simp [beq, faceless, beq_iff_faceless v]
  | present v, w => by cases w <;> simp [beq, faceless, beq_iff_faceless v]
  | cause c, w => by cases w <;> simp [beq, faceless, Cause.beq_iff_faceless]
  | failure c, w => by
    cases w <;> simp [beq, faceless]
    -- captured causes are compared as the causes that they are
    exact Cause.beq_iff_faceless

theorem beqList_iff_faceless :
    ∀ vs ws : List Value, beqList vs ws = true ↔ facelessItems vs = facelessItems ws
  | [], ws => by cases ws <;> simp [beqList, facelessItems]
  | v :: vs, ws => by
    cases ws <;> simp [beqList, facelessItems, beq_iff_faceless v, beqList_iff_faceless vs]

theorem beqEntries_iff_faceless : ∀ as bs : List (Value × Value),
    beqEntries as bs = true ↔ facelessEntries as = facelessEntries bs
  | [], bs => by cases bs <;> simp [beqEntries, facelessEntries]
  | (k, v) :: as, bs => by
    cases bs <;>
      simp [beqEntries, facelessEntries, beq_iff_faceless k, beq_iff_faceless v,
        beqEntries_iff_faceless as]

end

mutual

/-- **The digest of a value** does not depend on what its causes say. -/
theorem digest_faceless : ∀ v : Value, v.faceless.digest = v.digest
  | unit | bool _ | int _ | text _ | none | absent | failure _ | cause _ => rfl
  | list vs => by
    rw [faceless, digest, digest, length_facelessItems, digests_faceless vs]
  | map entries => by
    rw [faceless, digest, digest, length_facelessEntries, entryDigests_faceless entries]
  | some v => by rw [faceless, digest, digest, digest_faceless v]
  | success v => by rw [faceless, digest, digest, digest_faceless v]
  | present v => by rw [faceless, digest, digest, digest_faceless v]

theorem digests_faceless : ∀ vs : List Value, digests (facelessItems vs) = digests vs
  | [] => rfl
  | v :: vs => by rw [facelessItems, digests, digests, digest_faceless v, digests_faceless vs]

theorem entryDigests_faceless : ∀ entries : List (Value × Value),
    entryDigests (facelessEntries entries) = entryDigests entries
  | [] => rfl
  | (k, v) :: entries => by
    rw [facelessEntries, entryDigests, entryDigests, digest_faceless k, digest_faceless v,
      entryDigests_faceless entries]

end

instance : EquivBEq Value where
  rfl {v} := (beq_iff_faceless v v).mpr rfl
  symm {v w} h := (beq_iff_faceless w v).mpr ((beq_iff_faceless v w).mp h).symm
  trans {v w x} h h' :=
    (beq_iff_faceless v x).mpr (((beq_iff_faceless v w).mp h).trans ((beq_iff_faceless w x).mp h'))

instance : LawfulDigestible Value where
  digest_eq {v w} h := by
    show v.digest = w.digest
    rw [← v.digest_faceless, (beq_iff_faceless v w).mp h, w.digest_faceless]

/-! An attempt or a maybe is the same to compare and to hash, whether its type is fixed or not. -/

theorem beq_ofAttempt (t u : Attempt Value) : (ofAttempt t == ofAttempt u) = (t == u) := by
  cases t <;> cases u <;> rfl

theorem digest_ofAttempt (t : Attempt Value) :
    Fallible.digest (ofAttempt t) = Fallible.digest t := by
  cases t <;> rfl

theorem beq_ofMaybe (m n : Maybe Value) : (ofMaybe m == ofMaybe n) = (m == n) := by
  cases m <;> cases n <;> rfl

theorem digest_ofMaybe (m : Maybe Value) : Fallible.digest (ofMaybe m) = Fallible.digest m := by
  cases m <;> rfl

end Value

end Fallible
