import Fallible.Proofs.Judgement

/-!
# Rewriting predicates

Predicates put together with negation, conjunction and disjunction ask their leaves from left to
right, and only as long as the answer is open. A leaf may answer with a cause, unwind or do whatever
it does to the session; then it matters which leaves are asked, and in which order. The laws of De
Morgan keep both: negation turns the answer around after which a conjunction stops, and that is the
one after which the disjunction of the negations stops. So all negations may be moved to the leaves.

## Main definitions

* `Predicate.branch`: going on from a truth value
* `Predicate.Formula`: predicates put together of leaves
* `Predicate.Formula.normal`, `Predicate.Formula.dual`: with negations at the leaves only
* `Predicate.Recorded`: leaves that record their own calls
* `Predicate.Concludes`: how the calls of leaves determine the end of a formula
* `Predicate.Accounts`: a predicate that calls leaves and ends as they say

## Main results

* `Predicate.negate_and`, `Predicate.negate_or`: the laws of De Morgan
* `Predicate.Formula.predicate_normal`: moving negations to the leaves changes nothing
* `Predicate.Formula.accounts`: which leaves are asked, and which are not
* `Attempt.filter_filter`: filtering twice
* `Predicate.Formula.de_morgan`: all of it
-/

namespace Fallible

variable {σ α ι : Type}

namespace Predicate

/-! ## Laws

Every way to put predicates together asks the first one and goes on from its truth value. -/

/-- A predicate whose answer is known. -/
def known (b : Bool) : Predicate σ α := fun _ => return .ok b

/-- Asks `p`, and then what its truth value tells to; a cause is handed on. -/
def branch (p : Predicate σ α) (next : Bool → Predicate σ α) : Predicate σ α := fun a => do
  match ← p a with
  | .ok b => next b a
  | .error c => return .error c

section Laws

variable (p q r : Predicate σ α)

theorem negate_eq_branch : p.negate = p.branch fun b => known !b := rfl

theorem and_eq_branch :
    p.and q = p.branch fun
      | true => q
      | false => known false := by
  funext a
  refine bind_congr fun o => ?_
  rcases o with c | (_ | _) <;> rfl

theorem or_eq_branch :
    p.or q = p.branch fun
      | true => known true
      | false => q := by
  funext a
  refine bind_congr fun o => ?_
  rcases o with c | (_ | _) <;> rfl

theorem known_branch (b : Bool) (next : Bool → Predicate σ α) : (known b).branch next = next b :=
  rfl

theorem branch_known : p.branch known = p := by
  funext a
  refine (bind_congr fun o => ?_).trans (bind_pure (p a))
  cases o <;> rfl

/-- A cause of `p` is handed on twice on the one side and once on the other. -/
theorem branch_branch (next later : Bool → Predicate σ α) :
    (p.branch next).branch later = p.branch fun b => (next b).branch later := by
  funext a
  rw [branch, branch, bind_assoc]
  refine bind_congr fun o => ?_
  cases o <;> rfl

theorem negate_negate : p.negate.negate = p := by
  rw [negate_eq_branch, negate_eq_branch, branch_branch]
  refine (congrArg p.branch (funext fun b => ?_)).trans p.branch_known
  rw [known_branch, Bool.not_not]

/-- **De Morgan**: where the first does not hold, neither side asks the second. -/
theorem negate_and : (p.and q).negate = p.negate.or q.negate := by
  rw [negate_eq_branch, and_eq_branch, branch_branch, or_eq_branch, negate_eq_branch p,
    branch_branch]
  refine congrArg p.branch (funext fun b => ?_)
  cases b <;> rfl

/-- **De Morgan**: where the first holds, neither side asks the second. -/
theorem negate_or : (p.or q).negate = p.negate.and q.negate := by
  rw [negate_eq_branch, or_eq_branch, branch_branch, and_eq_branch, negate_eq_branch p,
    branch_branch]
  refine congrArg p.branch (funext fun b => ?_)
  cases b <;> rfl

theorem and_assoc : (p.and q).and r = p.and (q.and r) := by
  rw [and_eq_branch, and_eq_branch p q, branch_branch, and_eq_branch p, and_eq_branch q]
  refine congrArg p.branch (funext fun b => ?_)
  cases b <;> rfl

theorem or_assoc : (p.or q).or r = p.or (q.or r) := by
  rw [or_eq_branch, or_eq_branch p q, branch_branch, or_eq_branch p, or_eq_branch q]
  refine congrArg p.branch (funext fun b => ?_)
  cases b <;> rfl

end Laws

/-- A predicate put together of leaves. -/
inductive Formula (ι : Type) where
  | leaf (i : ι)
  | negate (e : Formula ι)
  | not (e : Formula ι)
  | and (e f : Formula ι)
  | or (e f : Formula ι)

namespace Formula

/-- The leaves, from left to right. -/
def leaves : Formula ι → List ι
  | leaf i => [i]
  | negate e | not e => e.leaves
  | and e f | or e f => e.leaves ++ f.leaves

/-- The predicate that is put together. -/
def predicate (p : ι → Predicate σ α) : Formula ι → Predicate σ α
  | leaf i => p i
  | negate e => (e.predicate p).negate
  | not e => (e.predicate p).not
  | and e f => (e.predicate p).and (f.predicate p)
  | or e f => (e.predicate p).or (f.predicate p)

mutual

/-- The same predicate with negations at the leaves only. -/
def normal : Formula ι → Formula ι
  | leaf i => leaf i
  | negate e | not e => e.dual
  | and e f => and e.normal f.normal
  | or e f => or e.normal f.normal

/-- The negation, with negations at the leaves only. -/
def dual : Formula ι → Formula ι
  | leaf i => negate (leaf i)
  | negate e | not e => e.normal
  | and e f => or e.dual f.dual
  | or e f => and e.dual f.dual

end

/-- A formula with negations at the leaves only. -/
inductive IsNormal : Formula ι → Prop where
  | leaf (i : ι) : IsNormal (leaf i)
  | negate (i : ι) : IsNormal (negate (.leaf i))
  | and {e f : Formula ι} (he : IsNormal e) (hf : IsNormal f) : IsNormal (and e f)
  | or {e f : Formula ι} (he : IsNormal e) (hf : IsNormal f) : IsNormal (or e f)

/-! ## Negations at the leaves -/

theorem isNormal_normal_and_dual (e : Formula ι) : e.normal.IsNormal ∧ e.dual.IsNormal := by
  induction e with
  | leaf i => exact ⟨.leaf i, .negate i⟩
  | negate e ih => exact ih.symm
  | not e ih => exact ih.symm
  | and e f ihe ihf => exact ⟨.and ihe.1 ihf.1, .or ihe.2 ihf.2⟩
  | or e f ihe ihf => exact ⟨.or ihe.1 ihf.1, .and ihe.2 ihf.2⟩

/-- Every leaf stays where it is. -/
theorem leaves_normal_and_dual (e : Formula ι) :
    e.normal.leaves = e.leaves ∧ e.dual.leaves = e.leaves := by
  induction e with
  | leaf i => exact ⟨rfl, rfl⟩
  | negate e ih => exact ih.symm
  | not e ih => exact ih.symm
  | and e f ihe ihf =>
    constructor
    · rw [normal, leaves, leaves, ihe.1, ihf.1]
    · rw [dual, leaves, leaves, ihe.2, ihf.2]
  | or e f ihe ihf =>
    constructor
    · rw [normal, leaves, leaves, ihe.1, ihf.1]
    · rw [dual, leaves, leaves, ihe.2, ihf.2]

theorem predicate_normal_and_dual (p : ι → Predicate σ α) (e : Formula ι) :
    e.normal.predicate p = e.predicate p ∧ e.dual.predicate p = (e.predicate p).negate := by
  induction e with
  | leaf i => exact ⟨rfl, rfl⟩
  | negate e ih => exact ⟨ih.2, ih.1.trans (negate_negate (e.predicate p)).symm⟩
  | not e ih => exact ⟨ih.2, ih.1.trans (negate_negate (e.predicate p)).symm⟩
  | and e f ihe ihf =>
    constructor
    · rw [normal, predicate, predicate, ihe.1, ihf.1]
    · rw [dual, predicate, predicate, ihe.2, ihf.2, negate_and]
  | or e f ihe ihf =>
    constructor
    · rw [normal, predicate, predicate, ihe.1, ihf.1]
    · rw [dual, predicate, predicate, ihe.2, ihf.2, negate_or]

/-- **Moving negations to the leaves** changes nothing. -/
theorem predicate_normal (p : ι → Predicate σ α) (e : Formula ι) :
    e.normal.predicate p = e.predicate p :=
  (predicate_normal_and_dual p e).1

end Formula

/-! ## Calls of leaves -/

/-- A call of a leaf, and how it ended. -/
abbrev Call (ι : Type) :=
  ι × Outcome (Except Cause Bool)

/-- Whether a call ended in a truth value. -/
def Answered (o : Outcome (Except Cause Bool)) : Prop :=
  ∃ b, o = .returned (.ok b)

/-- How calls of leaves, oldest first, determine the end of a formula: either all of them ended in
truth values, and it does; or the last one did not, and it ends as that did. -/
inductive Concludes : List (Call ι) → Outcome (Except Cause Bool) → Prop where
  | answers {calls : List (Call ι)} (b : Bool) (answered : ∀ c ∈ calls, Answered c.2) :
    Concludes calls (.returned (.ok b))
  | stops {before : List (Call ι)} {i : ι} {o : Outcome (Except Cause Bool)}
    (answered : ∀ c ∈ before, Answered c.2) (last : ¬ Answered o) :
    Concludes (before ++ [(i, o)]) o

/-- Every leaf records its calls, with how they end, in a log that the caller keeps. -/
def Recorded (p : ι → Predicate σ α) (log : σ → List (Call ι)) : Prop :=
  ∀ i a s o s', p i a s = (o, s') → log s'.caller = log s.caller ++ [(i, o)]

/-- A predicate that calls some of the given leaves, in order and each one at most once where it
stands, and ends as the calls determine. -/
def Accounts (log : σ → List (Call ι)) (leaves : List ι) (q : Predicate σ α) : Prop :=
  ∀ a s o s', q a s = (o, s') → ∃ calls : List (Call ι),
    log s'.caller = log s.caller ++ calls ∧ (calls.map Prod.fst).Sublist leaves ∧ Concludes calls o

section Calls

variable {p : ι → Predicate σ α} {log : σ → List (Call ι)} {o : Outcome (Except Cause Bool)}

/-- Calls that ended in truth values come before others that determine the end. -/
theorem Concludes.append {calls later : List (Call ι)} (h : Concludes later o)
    (answered : ∀ c ∈ calls, Answered c.2) : Concludes (calls ++ later) o := by
  cases h with
  | answers b hl => exact .answers b (List.forall_mem_append.mpr ⟨answered, hl⟩)
  | stops hl last =>
    rw [← List.append_assoc]
    exact .stops (List.forall_mem_append.mpr ⟨answered, hl⟩) last

theorem concludes_singleton (i : ι) (o : Outcome (Except Cause Bool)) : Concludes [(i, o)] o := by
  by_cases h : Answered o
  · obtain ⟨b, rfl⟩ := h
    exact .answers b (List.forall_mem_singleton.mpr ⟨b, rfl⟩)
  · exact @Concludes.stops ι [] i o nofun h

/-- Nothing is called for an answer that is known. -/
theorem accounts_known (log : σ → List (Call ι)) (leaves : List ι) (b : Bool) :
    Accounts log leaves (known b : Predicate σ α) := by
  intro a s o s' h
  cases h
  exact ⟨[], (List.append_nil _).symm, List.nil_sublist leaves, .answers b nofun⟩

theorem Recorded.accounts (h : Recorded p log) (i : ι) : Accounts log [i] (p i) :=
  fun a s o s' hs =>
    ⟨[(i, o)], h i a s o s' hs, List.Sublist.refl [i], concludes_singleton i o⟩

/-- What a truth value leads to. -/
theorem branch_of_answered {q : Predicate σ α} {a : α} {s s' : Session σ} {b : Bool}
    (next : Bool → Predicate σ α) (h : q a s = (.returned (.ok b), s')) :
    q.branch next a s = next b a s' := by
  rw [branch, Run.bind_apply, h]

/-- Nothing comes after what is no truth value. -/
theorem branch_of_not_answered {q : Predicate σ α} {a : α} {s s' : Session σ}
    (next : Bool → Predicate σ α) (h : q a s = (o, s')) (ho : ¬ Answered o) :
    q.branch next a s = (o, s') := by
  rw [branch, Run.bind_apply, h]
  rcases o with (c | b) | c | text
  · rfl
  · exact absurd ⟨b, rfl⟩ ho
  · rfl
  · rfl

/-- **Going on from a truth value**: the calls up to it are followed by those after it. What is no
truth value is the end, with the last of the calls up to it. -/
theorem Accounts.branch {leaves later : List ι} {q : Predicate σ α} {next : Bool → Predicate σ α}
    (hq : Accounts log leaves q) (hn : ∀ b, Accounts log later (next b)) :
    Accounts log (leaves ++ later) (q.branch next) := by
  intro a s o s' h
  rcases hqs : q a s with ⟨o₁, s₁⟩
  obtain ⟨calls, hlog, hsub, hc⟩ := hq a s o₁ s₁ hqs
  -- the calls of the first tell whether anything comes after them
  cases hc with
  | answers b answered =>
    rw [branch_of_answered next hqs] at h
    obtain ⟨calls', hlog', hsub', hc'⟩ := hn b a s₁ o s' h
    refine ⟨calls ++ calls', ?_, ?_, hc'.append answered⟩
    · rw [hlog', hlog, List.append_assoc]
    · rw [List.map_append]
      exact hsub.append hsub'
  | stops answered last =>
    rw [branch_of_not_answered next hqs last] at h
    cases h
    exact ⟨_, hlog, hsub.trans (List.sublist_append_left leaves later), .stops answered last⟩

theorem Accounts.negate {leaves : List ι} {q : Predicate σ α} (hq : Accounts log leaves q) :
    Accounts log leaves q.negate := by
  have hn := hq.branch fun b => accounts_known log [] !b
  rwa [List.append_nil, ← negate_eq_branch] at hn

/-- **Which leaves are asked**: some of those of the formula, from left to right, and none after one
that did not answer with a truth value. -/
theorem Formula.accounts (h : Recorded p log) (e : Formula ι) :
    Accounts log e.leaves (e.predicate p) := by
  induction e with
  | leaf i => exact h.accounts i
  | negate e ih => exact ih.negate
  | not e ih => exact ih.negate
  | and e f ihe ihf =>
    rw [predicate, and_eq_branch]
    exact ihe.branch fun
      | true => ihf
      | false => accounts_known log f.leaves false
  | or e f ihe ihf =>
    rw [predicate, or_eq_branch]
    exact ihe.branch fun
      | true => accounts_known log f.leaves true
      | false => ihf

end Calls

end Predicate

/-! ## Filtering -/

namespace Attempt

/-- **Filtering twice** is filtering by the conjunction. A value for which the first does not hold
comes to a failure, which the second passes on. -/
theorem filterOr_filterOr (t : Attempt α) (p q : Predicate σ α) (error : α → Run σ Cause) :
    (t.filterOr p error >>= fun u => u.filterOr q error) = t.filterOr (p.and q) error := by
  cases t with
  | failure c => rfl
  | success a =>
    rw [filterOr, filterOr, Predicate.and, bind_assoc, bind_assoc]
    refine bind_congr fun o => ?_
    rcases o with c | (_ | _)
    · exact fail_bind (f := fun u => u.filterOr q error) (fun _ => rfl) c
    · refine (bind_assoc _ _ _).trans (bind_congr fun d => ?_)
      exact fail_bind (f := fun u => u.filterOr q error) (fun _ => rfl) d
    · rfl

theorem filter_filter [Shown α] (t : Attempt α) (p q : Predicate σ α) :
    (t.filter p >>= fun u => u.filter q) = t.filter (p.and q) :=
  filterOr_filterOr t p q unsatisfied

end Attempt

/-! ## All of it -/

namespace Predicate.Formula

/-- **Predicates may be rewritten by the laws of De Morgan.**

* Every formula has a form with negations at the leaves only, and none of them doubled, with the
  same leaves in the same places. Both are the same predicate, whatever the leaves: they answer
  alike, with the same cause if with one, unwind alike and leave the session alike, with all that
  the leaves did to it.
* Where the leaves record their calls, a formula calls some of its leaves from left to right, each
  one at most as often as it stands there, and none after one that ended in anything else than a
  truth value: in a cause, or by unwinding. Then the formula ends in that way too.
* Conjunction and disjunction are associative.
* Filtering twice is filtering by the conjunction. -/
theorem de_morgan (p : ι → Predicate σ α) :
    (∀ e : Formula ι, e.normal.IsNormal ∧ e.normal.leaves = e.leaves ∧
      e.normal.predicate p = e.predicate p) ∧
    (∀ log : σ → List (Call ι), Recorded p log → ∀ e : Formula ι,
      Accounts log e.leaves (e.predicate p)) ∧
    (∀ q r u : Predicate σ α,
      (q.and r).and u = q.and (r.and u) ∧ (q.or r).or u = q.or (r.or u)) ∧
    ∀ [Shown α] (t : Attempt α) (q r : Predicate σ α),
      (do (← t.filter q).filter r) = t.filter (q.and r) := by
  refine ⟨fun e => ⟨?_, ?_, e.predicate_normal p⟩, fun log h e => accounts h e,
    fun q r u => ⟨and_assoc q r u, or_assoc q r u⟩, fun t q r => t.filter_filter q r⟩
  · exact e.isNormal_normal_and_dual.1
  · exact e.leaves_normal_and_dual.1

/-- A negated conjunction in which the second leaf answers with a cause: the third is not asked. -/
theorem de_morgan_of_cause :
    let c : Cause := { condition := ⟨0, .io, none⟩ }
    let answer : Bool → Outcome (Except Cause Bool)
      | true => .returned (.ok true)
      | false => .returned (.error c)
    let p : Bool → Predicate (List (Call Bool)) Unit := fun i _ s =>
      (answer i, { s with caller := s.caller ++ [(i, answer i)] })
    let e : Formula Bool := negate (and (leaf true) (or (not (leaf false)) (leaf true)))
    let s : Session (List (Call Bool)) := Session.start []
    Recorded p id ∧ Accounts id [true, false, true] (e.predicate p) ∧
      e.normal.predicate p () s = (.returned (.error c),
        { s with caller := [(true, .returned (.ok true)), (false, .returned (.error c))] }) := by
  intro c answer p e s
  obtain ⟨normal, accounts, -⟩ := de_morgan p
  have hp : Recorded p id := by
    rintro i a s o s' h
    cases h
    rfl
  refine ⟨hp, accounts id hp e, ?_⟩
  rw [(normal e).2.2]
  rfl

end Predicate.Formula

end Fallible
