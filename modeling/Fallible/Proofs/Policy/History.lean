import Fallible.Proofs.Config.Edits
import Mathlib.Data.List.Induction
import Mathlib.Order.Nat

/-!
# What the history of a policy lists

A policy is put together by edits, one after the other: each lists a kind, or takes one away. To
start from a list of kinds is to list one after the other. Of the edits that mention a kind only the
last one counts for whether it is listed. Its place in the list is another matter: to list a kind
again leaves it where it is, and to take it away and list it again puts it at the end, so the kinds
stand in the order in which they were listed first since they were last taken away.

## Main definitions

* `Policy.Edit`, `Policy.edited`: edits, and what they make of a policy
* `Policy.Start`: what a policy starts from
* `Policy.lastMention`: the last edit that mentions a kind
* `Policy.EnteredAt`: since which edit a kind has been in the list
* `Policy.Reflects`: a list that holds what stands, in the order of entering

## Main results

* `Policy.mem_kinds_edited_iff`: the last edit that mentions a kind decides
* `Policy.reflects_edited`: the list goes by when the kinds entered it
* `Policy.filter_kinds_edited`: edits leave the kinds alone that they do not mention
* `Policy.last_edit_wins`: all of it, for every start and all edits
-/

namespace Fallible

namespace Policy

/-- An edit of a policy. -/
inductive Edit where
  | list (k : Kind)
  | unlist (k : Kind)
  deriving DecidableEq

namespace Edit

/-- The kind that an edit mentions. -/
def kind : Edit → Kind
  | list k | unlist k => k

/-- What an edit makes of a policy. -/
def apply (p : Policy) : Edit → Policy
  | list k => p.withKind k
  | unlist k => p.withoutKind k

end Edit

/-- What edits make of a policy, one after the other. -/
def edited (p : Policy) (edits : List Edit) : Policy :=
  edits.foldl Edit.apply p

/-- What a policy starts from. -/
inductive Start where
  | empty
  | standard
  | ofList (kinds : List Kind)

namespace Start

/-- The policy to start from. -/
def policy : Start → Policy
  | empty => Policy.empty
  | standard => Policy.standard
  | ofList kinds => Policy.ofList kinds

/-- The edits of the empty policy that the start stands for. -/
def edits : Start → List Edit
  | empty => []
  | standard => defaultKinds.map .list
  | ofList kinds => kinds.map .list

end Start

/-- The last edit that mentions a kind. -/
def lastMention (edits : List Edit) (k : Kind) : Option Edit :=
  (edits.filter (·.kind = k)).getLast?

/-- A kind has been in the list since the edit at place `i`: that edit lists it, it was not taken
away later, and whatever edit listed it before, it was taken away in between. -/
structure EnteredAt (edits : List Edit) (k : Kind) (i : Nat) : Prop where
  lists : edits[i]? = some (.list k)
  stays : ∀ j, i < j → edits[j]? ≠ some (.unlist k)
  first : ∀ j < i, edits[j]? = some (.list k) → ∃ l, j < l ∧ l < i ∧ edits[l]? = some (.unlist k)

/-- A kind is standing if an edit lists it and no later one takes it away. -/
def Standing (edits : List Edit) (k : Kind) : Prop :=
  ∃ i : Nat, edits[i]? = some (.list k) ∧ ∀ j : Nat, i < j → edits[j]? ≠ some (.unlist k)

/-- A list of kinds goes by the edits: it holds the standing kinds, in the order in which they
entered it. -/
structure Reflects (edits : List Edit) (kinds : List Kind) : Prop where
  mem_iff : ∀ k, k ∈ kinds ↔ Standing edits k
  ordered : kinds.Pairwise fun a b => ∀ i j, EnteredAt edits a i → EnteredAt edits b j → i < j

variable {p : Policy} {k : Kind} {edits : List Edit} {e : Edit} {i : Nat}

/-! ## Single edits -/

theorem edited_append (p : Policy) (edits later : List Edit) :
    p.edited (edits ++ later) = (p.edited edits).edited later :=
  List.foldl_append

theorem edited_concat (p : Policy) (edits : List Edit) (e : Edit) :
    p.edited (edits ++ [e]) = e.apply (p.edited edits) :=
  edited_append p edits [e]

theorem edited_map_list (p : Policy) (kinds : List Kind) :
    p.edited (kinds.map .list) = kinds.foldl withKind p :=
  List.foldl_map

/-- A start is what its edits make of the empty policy. -/
theorem Start.policy_eq (start : Start) : start.policy = Policy.empty.edited start.edits := by
  cases start with
  | empty => rfl
  | standard => exact (edited_map_list Policy.empty defaultKinds).symm
  | ofList kinds => exact (edited_map_list Policy.empty kinds).symm

theorem mem_kinds_apply_iff :
    k ∈ (e.apply p).kinds ↔ e = .list k ∨ e.kind ≠ k ∧ k ∈ p.kinds := by
  cases e with
  | list a =>
    rw [Edit.apply, mem_kinds_withKind, Edit.kind, Edit.list.injEq]
    by_cases h : a = k
    · simp [h]
    · simp [h, Ne.symm h]
  | unlist a =>
    rw [Edit.apply, mem_kinds_withoutKind, Edit.kind, and_comm, ne_comm]
    simp

/-- An edit twice in a row does what it does once. -/
theorem apply_apply (p : Policy) (e : Edit) : e.apply (e.apply p) = e.apply p := by
  cases e with
  | list k =>
    have hk : k ∈ (p.withKind k).kinds := mem_kinds_withKind.mpr (.inr rfl)
    exact Policy.ext_kinds (kinds_withKind_of_mem hk)
  | unlist k =>
    refine Policy.ext_kinds (List.filter_eq_self.mpr fun a ha => ?_)
    exact (List.mem_filter.mp ha).2

/-- An edit leaves the other kinds as they stand. -/
theorem filter_kinds_apply {f : Kind → Bool} (h : f e.kind = false) :
    (e.apply p).kinds.filter f = p.kinds.filter f := by
  cases e with
  | list k =>
    have hf : [k].filter f = [] := List.filter_cons_of_neg (Bool.eq_false_iff.mp h)
    by_cases hk : k ∈ p.kinds
    · rw [Edit.apply, kinds_withKind_of_mem hk]
    · rw [Edit.apply, kinds_withKind_of_not_mem hk, List.filter_append, hf, List.append_nil]
  | unlist k =>
    rw [Edit.apply, withoutKind, List.filter_filter]
    refine List.filter_congr fun a _ => ?_
    by_cases hk : a = k
    · subst hk
      simp [show f a = false from h]
    · simp [hk]

/-- **Edits leave the kinds alone** that they do not mention, each where it stands among the
others. -/
theorem filter_kinds_edited (p : Policy) (edits : List Edit) :
    (p.edited edits).kinds.filter (· ∉ edits.map Edit.kind) =
      p.kinds.filter (· ∉ edits.map Edit.kind) := by
  suffices h : ∀ f : Kind → Bool, (∀ e ∈ edits, f e.kind = false) →
      (p.edited edits).kinds.filter f = p.kinds.filter f by
    refine h _ fun e he => ?_
    simpa using ⟨e, he, rfl⟩
  intro f hf
  induction edits using List.reverseRecOn with
  | nil => rfl
  | append_singleton edits e ih =>
    rw [edited_concat, filter_kinds_apply (hf e (by simp)),
      ih fun d hd => hf d (List.mem_append_left _ hd)]

/-! ## The last mention -/

theorem lastMention_concat :
    lastMention (edits ++ [e]) k = if e.kind = k then some e else lastMention edits k := by
  rw [lastMention, List.filter_append]
  by_cases h : e.kind = k
  · simp [h]
  · simp [h, lastMention]

/-- **The last edit that mentions a kind** decides whether it is listed. -/
theorem mem_kinds_edited_iff :
    k ∈ (Policy.empty.edited edits).kinds ↔ lastMention edits k = some (.list k) := by
  induction edits using List.reverseRecOn with
  | nil => simp [edited, Policy.empty, lastMention]
  | append_singleton edits e ih =>
    rw [edited_concat, mem_kinds_apply_iff, lastMention_concat, ih]
    by_cases h : e.kind = k
    · simp [h]
    · have hne : e ≠ .list k := fun he => h (he ▸ rfl)
      simp [h, hne]

/-! ## The order of the list -/

theorem getElem?_concat_eq_some_iff {d : Edit} :
    (edits ++ [e])[i]? = some d ↔ edits[i]? = some d ∨ i = edits.length ∧ e = d := by
  obtain h | rfl | h := Nat.lt_trichotomy i edits.length
  · rw [List.getElem?_append_left h, or_iff_left fun hd => absurd hd.1 h.ne]
  · simp
  · have hl : (edits ++ [e]).length ≤ i := by rwa [List.length_append]
    simp [List.getElem?_eq_none hl, List.getElem?_eq_none h.le, h.ne']

theorem getElem?_concat_of_eq_some {d : Edit} (h : edits[i]? = some d) :
    (edits ++ [e])[i]? = some d :=
  getElem?_concat_eq_some_iff.mpr (.inl h)

theorem EnteredAt.lt_length (h : EnteredAt edits k i) : i < edits.length :=
  (List.getElem?_eq_some_iff.mp h.lists).1

/-- A kind enters the list once: what is there already cannot enter. -/
theorem EnteredAt.unique {j : Nat} (hi : EnteredAt edits k i) (hj : EnteredAt edits k j) :
    i = j := by
  obtain h | h | h := Nat.lt_trichotomy i j
  · obtain ⟨l, hil, -, hl⟩ := hj.first i h hi.lists
    exact absurd hl (hi.stays l hil)
  · exact h
  · obtain ⟨l, hjl, -, hl⟩ := hi.first j h hj.lists
    exact absurd hl (hj.stays l hjl)

/-- A standing kind entered the list with the earliest edit from which on it was not taken away. -/
theorem standing_iff_exists_enteredAt : Standing edits k ↔ ∃ i, EnteredAt edits k i := by
  classical
  constructor
  · intro h
    have hmin := Nat.find_spec h
    refine ⟨Nat.find h, hmin.1, hmin.2, fun j hj hlj => ?_⟩
    obtain ⟨l, hjl, hl⟩ : ∃ l, j < l ∧ edits[l]? = some (.unlist k) := by
      by_contra hn
      exact Nat.find_min h hj ⟨hlj, fun l hjl hl => hn ⟨l, hjl, hl⟩⟩
    refine ⟨l, hjl, ?_, hl⟩
    obtain hlt | heq | hgt := Nat.lt_trichotomy l (Nat.find h)
    · exact hlt
    · rw [heq, hmin.1] at hl
      cases hl
    · exact absurd hl (hmin.2 l hgt)
  · rintro ⟨i, h⟩
    exact ⟨i, h.lists, h.stays⟩

theorem standing_concat_iff :
    Standing (edits ++ [e]) k ↔ e = .list k ∨ e.kind ≠ k ∧ Standing edits k := by
  constructor
  · rintro ⟨i, hi, hs⟩
    obtain hi | ⟨-, rfl⟩ := getElem?_concat_eq_some_iff.mp hi
    · have hlt : i < edits.length := (List.getElem?_eq_some_iff.mp hi).1
      have hne : e ≠ .unlist k := fun he =>
        hs edits.length hlt (getElem?_concat_eq_some_iff.mpr (.inr ⟨rfl, he⟩))
      have hold : Standing edits k :=
        ⟨i, hi, fun j hj h => hs j hj (getElem?_concat_of_eq_some h)⟩
      cases e with
      | list a =>
        by_cases ha : a = k
        · exact .inl (ha ▸ rfl)
        · exact .inr ⟨ha, hold⟩
      | unlist a => exact .inr ⟨fun ha => hne (congrArg Edit.unlist ha), hold⟩
    · exact .inl rfl
  · rintro (rfl | ⟨hne, i, hi, hs⟩)
    · refine ⟨edits.length, getElem?_concat_eq_some_iff.mpr (.inr ⟨rfl, rfl⟩), fun j hj h => ?_⟩
      obtain h | ⟨rfl, -⟩ := getElem?_concat_eq_some_iff.mp h
      · exact absurd (List.getElem?_eq_some_iff.mp h).1 hj.not_gt
      · exact absurd hj (Nat.lt_irrefl _)
    · refine ⟨i, getElem?_concat_of_eq_some hi, fun j hj h => ?_⟩
      obtain h | ⟨-, rfl⟩ := getElem?_concat_eq_some_iff.mp h
      · exact hs j hj h
      · exact hne rfl

/-- A kind that is standing has been in the list since the same edit after one edit more. -/
theorem EnteredAt.of_concat (h : EnteredAt (edits ++ [e]) k i) (hk : Standing edits k) :
    EnteredAt edits k i := by
  have hi : edits[i]? = some (.list k) := by
    obtain hi | ⟨rfl, -⟩ := getElem?_concat_eq_some_iff.mp h.lists
    · exact hi
    -- the last edit lists a kind that was there already
    · obtain ⟨j, hj, hs⟩ := hk
      have hlt : j < edits.length := (List.getElem?_eq_some_iff.mp hj).1
      obtain ⟨l, hjl, hl, hul⟩ := h.first j hlt (getElem?_concat_of_eq_some hj)
      obtain hul | ⟨rfl, -⟩ := getElem?_concat_eq_some_iff.mp hul
      · exact absurd hul (hs l hjl)
      · exact absurd hl (Nat.lt_irrefl _)
  have hlt : i < edits.length := (List.getElem?_eq_some_iff.mp hi).1
  refine ⟨hi, fun j hj hu => h.stays j hj (getElem?_concat_of_eq_some hu), ?_⟩
  intro j hj hlj
  obtain ⟨l, hjl, hl, hul⟩ := h.first j hj (getElem?_concat_of_eq_some hlj)
  obtain hul | ⟨rfl, -⟩ := getElem?_concat_eq_some_iff.mp hul
  · exact ⟨l, hjl, hl, hul⟩
  · exact absurd (hl.trans hlt) (Nat.lt_irrefl _)

/-- Of two kinds of a list the order is the same after one edit more. -/
theorem Reflects.ordered_concat {kinds : List Kind} (h : Reflects edits kinds) (e : Edit) :
    kinds.Pairwise fun a b =>
      ∀ i j, EnteredAt (edits ++ [e]) a i → EnteredAt (edits ++ [e]) b j → i < j := by
  refine h.ordered.imp_of_mem fun ha hb hab i j hi hj => ?_
  exact hab i j (hi.of_concat ((h.mem_iff _).mp ha)) (hj.of_concat ((h.mem_iff _).mp hb))

/-- One edit more keeps what the list goes by. -/
theorem Reflects.apply (h : Reflects edits p.kinds) (e : Edit) :
    Reflects (edits ++ [e]) (e.apply p).kinds where
  mem_iff k := by
    rw [mem_kinds_apply_iff, h.mem_iff, standing_concat_iff]
  ordered := by
    have ho := h.ordered_concat e
    cases e with
    | unlist k => exact ho.filter _
    | list k =>
      by_cases hk : k ∈ p.kinds
      · rw [Edit.apply, kinds_withKind_of_mem hk]
        exact ho
      rw [Edit.apply, kinds_withKind_of_not_mem hk]
      refine List.pairwise_append.mpr ⟨ho, List.pairwise_singleton _ k, ?_⟩
      intro a ha b hb i j hi hj
      obtain rfl := List.mem_singleton.mp hb
      have hi := hi.of_concat ((h.mem_iff a).mp ha)
      obtain hj' | ⟨rfl, -⟩ := getElem?_concat_eq_some_iff.mp hj.lists
      · -- it did not enter before, since it was not standing
        have hs : Standing edits b :=
          ⟨j, hj', fun l hl hu => hj.stays l hl (getElem?_concat_of_eq_some hu)⟩
        exact absurd ((h.mem_iff b).mpr hs) hk
      · exact hi.lt_length

/-- **The list goes by when the kinds entered it**, whatever the edits. -/
theorem reflects_edited (edits : List Edit) : Reflects edits (Policy.empty.edited edits).kinds := by
  induction edits using List.reverseRecOn with
  | nil => exact ⟨fun k => ⟨fun h => (nomatch h), fun ⟨_, h, _⟩ => (nomatch h)⟩, .nil⟩
  | append_singleton edits e ih =>
    rw [edited_concat]
    exact ih.apply e

/-! ## What a history lists -/

/-- **The last edit wins, and the list is in order.** To start from a list of kinds, or from the
default one, is to list its kinds one after the other. Whatever edits follow,

* no kind is listed twice, and a kind is listed just if the last edit that mentions it lists it;
* a listed kind has been in the list since one edit of the history, and the kinds stand in the order
  of these edits.

So a policy of given kinds lists each at its first place. An edit twice in a row does what it does
once, and edits leave the kinds that they do not mention alone, each where it stands among the
others. -/
theorem last_edit_wins (start : Start) (edits : List Edit) :
    let p := start.policy.edited edits
    let history := start.edits ++ edits
    p.kinds.Nodup ∧
    (∀ k, k ∈ p.kinds ↔ lastMention history k = some (.list k)) ∧
    (∀ k, k ∈ p.kinds ↔ ∃! i, EnteredAt history k i) ∧
    (p.kinds.Pairwise fun a b => ∀ i j, EnteredAt history a i → EnteredAt history b j → i < j) ∧
    (∀ kinds, (ofList kinds).kinds = kinds.eraseDups) ∧
    (∀ e : Edit, e.apply (e.apply p) = e.apply p) ∧
    ∀ later, (p.edited later).kinds.filter (· ∉ later.map Edit.kind) =
      p.kinds.filter (· ∉ later.map Edit.kind) := by
  intro p history
  have hp : p = Policy.empty.edited history := by
    rw [edited_append, ← start.policy_eq]
  have hr : Reflects history p.kinds := hp ▸ reflects_edited history
  have hl (kinds : List Kind) : (ofList kinds).kinds = kinds.eraseDups :=
    kinds_foldl_withKind kinds Policy.empty
  refine ⟨p.nodup, ?_, ?_, hr.ordered, hl, apply_apply p, filter_kinds_edited p⟩
  · intro k
    rw [hp, mem_kinds_edited_iff]
  · intro k
    rw [hr.mem_iff, standing_iff_exists_enteredAt]
    exact ⟨fun ⟨i, hi⟩ => ⟨i, hi, fun _ hj => hj.unique hi⟩, ExistsUnique.exists⟩

/-- Taken away and listed again, a kind stands at the end; listed twice, it stays. -/
example :
    (standard.edited [.unlist .linkage, .list .terminated, .list .linkage]).kinds =
      [.virtualMachine, .terminated, .linkage] := by
  decide

end Policy

end Fallible
