import Fallible.Codec.Schema
import Fallible.Proofs.Codec.Record
import Fallible.Proofs.Leaves

/-!
# Values with new causes

What a document can tell of a value is the value but for the identities of its conditions and for
the foreign errors that its causes rest on. A value is renewed by replacing every cause by one that
was raised anew and says the same. The new conditions are numbered in the order in which the value
holds them, so no two are the same and none is one that was raised before.

## Main definitions

* `Schema.Describes`: the values of a schema
* `Schema.isFaithful`: schemas whose values have documents of their own
* `Value.renew`: a value with new causes, numbered from one number on
* `Value.Renewal`: having new causes that tell the same

## Main results

* `Value.renewal_renew`: what a renewed value has in common with the value
-/

namespace Fallible

/-! ## Values of a schema -/

/-- A value is one of the values of a schema. -/
inductive Schema.Describes : Schema → Value → Prop where
  | unit : Describes .unit .unit
  | bool (b : Bool) : Describes .bool (.bool b)
  | integer {w : Width} {n : Int} (h : w.contains n = true) : Describes (.integer w) (.int n)
  | text (s : String) : Describes .text (.text s)
  | cause (c : Cause) : Describes .cause (.cause c)
  | success {s : Schema} {v : Value} (h : Describes s v) : Describes (.attempt s) (.success v)
  | failure (s : Schema) (c : Captured) : Describes (.attempt s) (.failure c)
  | present {s : Schema} {v : Value} (h : Describes s v) : Describes (.maybe s) (.present v)
  | absent (s : Schema) : Describes (.maybe s) .absent
  | list {s : Schema} {vs : List Value} (h : ∀ v ∈ vs, Describes s v) :
      Describes (.list s) (.list vs)
  | none (s : Schema) : Describes (.option s) .none
  | some {s : Schema} {v : Value} (h : Describes s v) : Describes (.option s) (.some v)

namespace Schema

/-- Whether a value of the schema may be written as null. -/
def isNullable : Schema → Bool
  | unit | option _ => true
  | _ => false

/-- Whether no option stands over a schema whose values may be written as null: null stands for the
empty option, and there it could stand for either. -/
def isFaithful : Schema → Bool
  | option s => !s.isNullable && s.isFaithful
  | attempt s | maybe s | list s => s.isFaithful
  | _ => true

end Schema

/-! ## Renewal -/

namespace Cause

/-- What a cause tells: the kind and the message of every condition, outermost first. -/
def told (c : Cause) : List (Kind × Option String) :=
  c.chain.map fun x => (x.kind, x.message)

/-- A cause that tells the same, raised anew where `n` conditions were raised before. -/
def renew (n : Nat) (c : Cause) : Cause :=
  Record.causeFrom n ⟨c.kind, c.message, c.wrapped.map fun x => (x.kind, x.message)⟩

theorem chain_renew (n : Nat) (c : Cause) : (c.renew n).chain = Record.number n c.told := rfl

theorem told_renew (n : Nat) (c : Cause) : (c.renew n).told = c.told := by
  rw [told, chain_renew, Record.map_number]

theorem length_told (c : Cause) : c.told.length = c.chain.length := by
  rw [told, List.length_map]

end Cause

namespace Value

mutual

/-- A value with all its causes renewed, where `n` conditions were raised before. -/
def renew (n : Nat) : Value → Value
  | list items => list (renewItems n items)
  | some v => some (renew n v)
  | success v => success (renew n v)
  | present v => present (renew n v)
  | failure c => failure ⟨c.cause.renew n⟩
  | cause c => cause (c.renew n)
  | v => v

/-- Items with all their causes renewed, one after the other. -/
def renewItems (n : Nat) : List Value → List Value
  | [] => []
  | v :: vs => renew n v :: renewItems (n + v.conditions.length) vs

end

theorem causes_list_cons (v : Value) (vs : List Value) :
    (list (v :: vs)).causes = v.causes ++ (list vs).causes := by
  rw [causes_list, causes_list, List.flatMap_cons]

theorem conditions_list_cons (v : Value) (vs : List Value) :
    (list (v :: vs)).conditions = v.conditions ++ (list vs).conditions := by
  rw [conditions, causes_list_cons, List.flatMap_append, ← conditions, ← conditions]

theorem conditions_congr {v w : Value} (h : v.causes = w.causes) : v.conditions = w.conditions := by
  rw [conditions, h, ← conditions]

/-- What a value `v'` has in common with `v` when its causes were raised anew after `n` others. -/
structure Renewal (n : Nat) (v v' : Value) : Prop where
  /-- The conditions are new ones, numbered in order. -/
  ids : v'.conditions.map Condition.id = List.range' n v.conditions.length
  /-- The causes tell what the causes of `v` do, one by one. -/
  told : v'.causes.map Cause.told = v.causes.map Cause.told
  /-- No cause rests on a foreign error. -/
  root : ∀ c ∈ v'.causes, c.root = .none
  /-- Without causes the value is the same. -/
  same : v.causes = [] → v' = v

namespace Renewal

variable {n : Nat} {v v' : Value}

theorem of_causes_eq_nil (h : v.causes = []) : Renewal n v v where
  ids := by simp [conditions, h]
  told := rfl
  root := by simp [h]
  same _ := rfl

/-- A value around another has the causes of that one. -/
theorem congr {w w' : Value} (h : Renewal n v v') (hw : w.causes = v.causes)
    (hw' : w'.causes = v'.causes) (hs : v' = v → w' = w) : Renewal n w w' where
  ids := by rw [conditions_congr hw, conditions_congr hw', h.ids]
  told := by rw [hw, hw', h.told]
  root := by rw [hw']; exact h.root
  same hc := hs (h.same (hw ▸ hc))

/-- A value that is or holds one cause and nothing else. -/
theorem of_cause {c : Cause} (hv : v.causes = [c]) (hv' : v'.causes = [c.renew n]) :
    Renewal n v v' where
  ids := by
    simp [conditions, hv, hv', Cause.chain_renew, Record.ids_number, Cause.length_told]
  told := by simp [hv, hv', Cause.told_renew]
  root := by
    intro d hd
    rw [hv', List.mem_singleton] at hd
    rw [hd]
    rfl
  same hc := by simp [hv] at hc

theorem cons {vs vs' : List Value} (h : Renewal n v v')
    (hs : Renewal (n + v.conditions.length) (list vs) (list vs')) :
    Renewal n (list (v :: vs)) (list (v' :: vs')) where
  ids := by
    rw [conditions_list_cons, conditions_list_cons, List.map_append, h.ids, hs.ids,
      List.range'_append_1, List.length_append]
  told := by
    rw [causes_list_cons, causes_list_cons, List.map_append, h.told, hs.told, List.map_append]
  root := by
    intro c hc
    rw [causes_list_cons] at hc
    obtain hc | hc := List.mem_append.mp hc
    · exact h.root c hc
    · exact hs.root c hc
  same hc := by
    rw [causes_list_cons, List.append_eq_nil_iff] at hc
    rw [h.same hc.1, list.inj (hs.same hc.2)]

end Renewal

/-- **Renewing replaces the causes and nothing else.** -/
theorem renewal_renew {s : Schema} {v : Value} (hv : s.Describes v) (n : Nat) :
    Renewal n v (v.renew n) := by
  induction hv generalizing n with
  | unit | bool | integer | text | absent | none => exact .of_causes_eq_nil rfl
  | cause c => exact .of_cause (causes_cause c) (causes_cause _)
  | failure s c => exact .of_cause (causes_failure c) (causes_failure _)
  | success h ih => exact (ih n).congr (causes_success _) (causes_success _) (congrArg success)
  | present h ih => exact (ih n).congr (causes_present _) (causes_present _) (congrArg present)
  | some h ih => exact (ih n).congr (causes_some _) (causes_some _) (congrArg some)
  | @list s vs h ih =>
    rw [renew]
    -- every item is renewed after the conditions of the items before it
    induction vs generalizing n with
    | nil => exact .of_causes_eq_nil rfl
    | cons v vs ihs =>
      refine (ih v List.mem_cons_self n).cons (ihs ?_ ?_ _)
      · exact fun w hw => h w (List.mem_cons_of_mem v hw)
      · exact fun w hw => ih w (List.mem_cons_of_mem v hw)

end Value

end Fallible
