import Fallible.Codec.Error
import Fallible.Value

/-!
# What stands inside a value

A value is taken apart down to the values that hold no other. Two things are read off these leaves:
the captured causes that a value carries, wherever in it its failures stand, and the conditions of
all its causes, captured or not. What an answer of any other shape carries is what the values in it
carry.

## Main definitions

* `Value.leaves`: the values in a value that hold no other
* `Value.causes`, `Value.conditions`: the causes in a value and their conditions
* `Mark`, `Carrier`: what may stand inside, and in what

## Main results

* `Value.carries_of_toAttempt?`, `Value.carries_of_toMaybe?`: looking at a value as an attempt or a
  maybe makes nothing up
* `Attempt.carries_toOption`, `Maybe.carries_toList`, …: nor does looking inside
-/

namespace Fallible

namespace Value

/-! ## Leaves -/

mutual

/-- The values in a value that hold no other, in order. -/
def leaves : Value → List Value
  | list items => leavesOfItems items
  | map entries => leavesOfEntries entries
  | some v | success v | present v => leaves v
  | v => [v]

/-- The leaves of the items of a list. -/
def leavesOfItems : List Value → List Value
  | [] => []
  | v :: vs => leaves v ++ leavesOfItems vs

/-- The leaves of the entries of a map, of each key before its value. -/
def leavesOfEntries : List (Value × Value) → List Value
  | [] => []
  | (k, v) :: entries => leaves k ++ leaves v ++ leavesOfEntries entries

end

theorem mem_leavesOfItems {l : Value} {vs : List Value} :
    l ∈ leavesOfItems vs ↔ ∃ v ∈ vs, l ∈ v.leaves := by
  induction vs with
  | nil => simp [leavesOfItems]
  | cons v vs ih => simp [leavesOfItems, ih]

/-- The cause that a leaf is or has. -/
def ownCause? : Value → Option Cause
  | cause c => Option.some c
  | failure c => Option.some c.cause
  | _ => Option.none

/-- The causes in a value, captured or not, in order. -/
def causes (v : Value) : List Cause :=
  v.leaves.filterMap ownCause?

/-- The conditions of all causes in a value, in order. -/
def conditions (v : Value) : List Condition :=
  v.causes.flatMap Cause.chain

@[simp] theorem causes_some (v : Value) : (some v).causes = v.causes := by
  rw [causes, leaves, ← causes]

@[simp] theorem causes_success (v : Value) : (success v).causes = v.causes := by
  rw [causes, leaves, ← causes]

@[simp] theorem causes_present (v : Value) : (present v).causes = v.causes := by
  rw [causes, leaves, ← causes]

@[simp] theorem causes_failure (c : Captured) : (failure c).causes = [c.cause] := by
  simp [causes, leaves, ownCause?]

@[simp] theorem causes_cause (c : Cause) : (cause c).causes = [c] := by
  simp [causes, leaves, ownCause?]

theorem causes_list (vs : List Value) : (list vs).causes = vs.flatMap causes := by
  rw [causes, leaves]
  induction vs with
  | nil => rfl
  | cons v vs ih => rw [leavesOfItems, List.filterMap_append, ih, List.flatMap_cons, causes]

end Value

/-! ## Conditions and captured causes -/

/-- What may stand somewhere inside: a condition, that of a cause or of one under it, or a captured
cause. -/
inductive Mark where
  | condition (x : Condition)
  | captured (c : Captured)

/-- What conditions and captured causes may stand in. -/
class Carrier (α : Type) where
  /-- Whether a condition or a captured cause stands somewhere inside. -/
  carries : α → Mark → Prop

namespace Carrier

variable {α β ε : Type}

instance : Carrier Value where
  carries v m :=
    match m with
    | .condition x => x ∈ v.conditions
    | .captured c => .failure c ∈ v.leaves

/-- A cause that is only held is not captured. -/
instance : Carrier Cause where
  carries c m :=
    match m with
    | .condition x => x ∈ c.chain
    | .captured _ => False

instance : Carrier Captured where
  carries c m :=
    match m with
    | .condition x => x ∈ c.cause.chain
    | .captured d => d = c

instance [Carrier α] : Carrier (Attempt α) where
  carries
    | .success a, m => carries a m
    | .failure c, m => carries c m

instance [Carrier α] : Carrier (Maybe α) where
  carries
    | .present a, m => carries a m
    | .absent, _ => False

instance [Carrier α] : Carrier (Option α) where
  carries
    | some a, m => carries a m
    | none, _ => False

instance [Carrier α] : Carrier (List α) :=
  ⟨fun as m => ∃ a ∈ as, carries a m⟩

instance [Carrier ε] [Carrier α] : Carrier (Except ε α) where
  carries
    | .ok a, m => carries a m
    | .error e, m => carries e m

instance [Carrier α] [Carrier β] : Carrier (α ⊕ β) where
  carries
    | .inl a, m => carries a m
    | .inr b, m => carries b m

/-- How a run ends carries the cause that unwound out of it. -/
instance [Carrier α] : Carrier (Outcome α) where
  carries
    | .returned a, m => carries a m
    | .thrown c, m => carries c m
    | .panicked _, _ => False

instance : Carrier Bool :=
  ⟨fun _ _ => False⟩

instance : Carrier Unit :=
  ⟨fun _ _ => False⟩

instance : Carrier DecodeError :=
  ⟨fun _ _ => False⟩

/-- What the cause of a captured one carries, the captured one carries too. -/
theorem carries_of_cause {c : Captured} {m : Mark} (h : carries c.cause m) : carries c m := by
  cases m with
  | condition x => exact h
  | captured d => exact h.elim

end Carrier

open Carrier (carries)

namespace Value

variable {m : Mark}

/-- What stands in a value stands in one of its causes. -/
theorem exists_mem_causes {v : Value} (h : carries v m) :
    ∃ c ∈ v.causes, m = .captured ⟨c⟩ ∨ ∃ x ∈ c.chain, m = .condition x := by
  cases m with
  | condition x =>
    obtain ⟨c, hc, hx⟩ := List.mem_flatMap.mp h
    exact ⟨c, hc, .inr ⟨x, hx, rfl⟩⟩
  | captured d => exact ⟨d.cause, List.mem_filterMap.mpr ⟨_, h, rfl⟩, .inl rfl⟩

/-- A value in which there is no cause carries nothing. -/
theorem not_carries {v : Value} (h : v.causes = []) : ¬carries v m := by
  intro hm
  obtain ⟨c, hc, -⟩ := exists_mem_causes hm
  rw [h] at hc
  cases hc

theorem carries_failure_iff {c : Captured} : carries (failure c) m ↔ carries c m := by
  cases m with
  | condition x =>
    show x ∈ (failure c).conditions ↔ x ∈ c.cause.chain
    rw [conditions, causes_failure, List.flatMap_singleton]
  | captured d =>
    show failure d ∈ leaves (failure c) ↔ d = c
    simp [leaves]

theorem carries_cause_iff {c : Cause} : carries (cause c) m ↔ carries c m := by
  cases m with
  | condition x =>
    show x ∈ (cause c).conditions ↔ x ∈ c.chain
    rw [conditions, causes_cause, List.flatMap_singleton]
  | captured d =>
    show failure d ∈ leaves (cause c) ↔ False
    simp [leaves]

theorem carries_list_iff {vs : List Value} : carries (list vs) m ↔ carries vs m := by
  cases m with
  | condition x =>
    show x ∈ (list vs).conditions ↔ ∃ v ∈ vs, x ∈ v.conditions
    rw [conditions, causes_list, List.mem_flatMap]
    simp only [List.mem_flatMap, conditions]
    constructor
    · rintro ⟨c, ⟨v, hv, hc⟩, hx⟩
      exact ⟨v, hv, c, hc, hx⟩
    · rintro ⟨v, hv, c, hc, hx⟩
      exact ⟨c, ⟨v, hv, hc⟩, hx⟩
  | captured d => exact mem_leavesOfItems

theorem carries_of_toAttempt? {v : Value} {t : Attempt Value} (h : v.toAttempt? = Option.some t)
    (hm : carries t m) : carries v m := by
  cases v <;> simp [toAttempt?] at h <;> subst h
  · exact hm
  · exact carries_failure_iff.mpr hm

theorem carries_of_toMaybe? {v : Value} {o : Maybe Value} (h : v.toMaybe? = Option.some o)
    (hm : carries o m) : carries v m := by
  cases v <;> simp [toMaybe?] at h <;> subst h
  · exact hm
  · exact hm.elim

theorem carries_of_toCause? {v : Value} {c : Cause} (h : v.toCause? = Option.some c)
    (hm : carries c m) : carries v m := by
  cases v <;> simp [toCause?] at h
  subst h
  exact carries_cause_iff.mpr hm

theorem carries_of_toOption? {v : Value} {o : Option Value} (h : v.toOption? = Option.some o)
    (hm : carries o m) : carries v m := by
  cases v <;> simp [toOption?] at h <;> subst h
  · exact hm.elim
  · exact hm

theorem carries_ofAttempt {t : Attempt Value} (hm : carries (ofAttempt t) m) : carries t m := by
  cases t with
  | success v => exact hm
  | failure c => exact carries_failure_iff.mp hm

theorem carries_ofMaybe {o : Maybe Value} (hm : carries (ofMaybe o) m) : carries o m := by
  cases o with
  | present v => exact hm
  | absent => exact absurd hm (not_carries rfl)

theorem carries_ofOption {o : Option Value} (hm : carries (ofOption o) m) : carries o m := by
  cases o with
  | some v => exact hm
  | none => exact absurd hm (not_carries rfl)

end Value

/-! ## Looking inside -/

section Inside

variable {α : Type} [Carrier α] {m : Mark}

theorem Option.carries_toList {o : Option α} (hm : carries o.toList m) : carries o m := by
  obtain ⟨a, ha, hm⟩ := hm
  cases o with
  | none => cases ha
  | some b =>
    obtain rfl := List.mem_singleton.mp ha
    exact hm

theorem Attempt.carries_toExcept {t : Attempt α} (hm : carries t.toExcept m) : carries t m := by
  cases t with
  | success a => exact hm
  | failure c => exact Carrier.carries_of_cause hm

theorem Attempt.carries_handle {t : Attempt α} (hm : carries t.handle m) : carries t m := by
  cases t <;> exact hm

theorem Attempt.carries_toOption {t : Attempt α} (hm : carries t.toOption m) : carries t m := by
  cases t with
  | success a => exact hm
  | failure c => exact hm.elim

theorem Attempt.carries_toMaybe {t : Attempt α} (hm : carries t.toMaybe m) : carries t m := by
  cases t with
  | success a => exact hm
  | failure c => exact hm.elim

theorem Attempt.carries_toList {t : Attempt α} (hm : carries t.toList m) : carries t m :=
  carries_handle (carries_toOption (Option.carries_toList hm))

theorem Attempt.carries_join {t : Attempt (Option α)} (hm : carries t.join m) : carries t m := by
  cases t with
  | success o =>
    cases o with
    | some a => exact hm
    | none => exact hm.elim
  | failure c => exact hm.elim

theorem Maybe.carries_handle {o : Maybe α} (hm : carries o.handle m) : carries o m := by
  cases o <;> exact hm

theorem Maybe.carries_toOption {o : Maybe α} (hm : carries o.toOption m) : carries o m := by
  cases o with
  | present a => exact hm
  | absent => exact hm.elim

theorem Maybe.carries_toList {o : Maybe α} (hm : carries o.toList m) : carries o m :=
  carries_handle (carries_toOption (Option.carries_toList hm))

end Inside

end Fallible
