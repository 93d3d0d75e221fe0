import Fallible.Proofs.Config.Edits
import Mathlib.Data.List.Nodup

/-!
# Causes that surface again and again

To get the value of a failure is to be answered with a fresh cause around the one inside, and to
make an attempt of that answer is to capture it. Done again and again this stacks fresh causes on
the first one, each with its message, and nothing of the first one is lost. What the stack is
recovered by is the kind that surfaced causes have, whatever the first one was; so where causes of
this kind are fatal, a failure that is none unwinds as soon as its value is asked for.

## Main definitions

* `Cause.stack`, `Cause.beneath`: the causes under a cause, and all errors under it
* `Cause.around`: a cause around another
* `Attempt.surfacing`: getting the value and capturing the answer, again and again

## Main results

* `Cause.beneath_eq`, `Cause.sources_eq`: the errors under a cause are its stack and what it rests
  on
* `Attempt.surfacing_failure`: the stack that surfacing builds
* `Attempt.surfacing_unwinds`: where it unwinds instead
* `Attempt.surfacing_stacks`: all of it
-/

namespace Fallible

variable {σ α : Type}

/-! ## What is under a cause -/

/-- An error under a cause: a cause again, or a foreign error, known by what it says. -/
inductive Beneath where
  | cause (c : Cause)
  | foreign (text : String)

/-- What an error under a cause says. -/
def Beneath.text : Beneath → String
  | cause c => c.text
  | foreign text => text

namespace Cause

theorem length_of_wrapped? {c d : Cause} (h : c.wrapped? = some d) :
    c.wrapped.length = d.wrapped.length + 1 := by
  rw [wrapped?] at h
  cases hw : c.wrapped with
  | nil =>
    rw [hw] at h
    cases h
  | cons next rest =>
    rw [hw] at h
    cases h
    rfl

/-- A cause, the cause that it wraps, the cause that this one wraps, and so on. -/
def stack (c : Cause) : List Cause :=
  c :: match _h : c.wrapped? with
    | none => []
    | some d => d.stack
termination_by c.wrapped.length
decreasing_by have := length_of_wrapped? _h; omega

/-- The foreign errors that a cause rests on in the end. -/
def foreigns (c : Cause) : List Beneath :=
  match c.root with
  | none => []
  | some error => (error.text :: error.beneath).map .foreign

/-- The errors under a cause, each the source of the one before: the causes that it wraps, and then
the foreign errors that the last of them rests on. -/
def beneath (c : Cause) : List Beneath :=
  match _h : c.wrapped? with
  | some d => .cause d :: d.beneath
  | none => c.foreigns
termination_by c.wrapped.length
decreasing_by have := length_of_wrapped? _h; omega

/-- A cause of a kind around another one, with its message. -/
def around (c : Cause) (id : Nat) (kind : Kind) : Cause where
  condition := { id, kind, message := c.message }
  wrapped := c.chain
  root := c.root

theorem stack_eq (c : Cause) : c.stack = c :: c.wrapped?.elim [] stack := by
  rw [stack]
  split <;> rename_i h <;> rw [h] <;> rfl

theorem root_of_wrapped? {c d : Cause} (h : c.wrapped? = some d) : d.root = c.root := by
  rw [wrapped?] at h
  split at h <;> cases h
  rfl

/-- **The errors under a cause** are the causes of its stack, and then the foreign errors that it
rests on. -/
theorem beneath_eq (c : Cause) : c.beneath = c.stack.tail.map .cause ++ c.foreigns := by
  induction c using stack.induct with
  | case1 c ih =>
    rw [beneath, stack_eq, List.tail_cons]
    split
    · rename_i d h
      rw [h, Option.elim_some, ih d h, stack_eq d, foreigns, foreigns, root_of_wrapped? h]
      rfl
    · rename_i h
      rw [h]
      rfl

/-- The conditions of the causes of a stack are those of the cause. -/
theorem map_condition_stack (c : Cause) : c.stack.map condition = c.chain := by
  induction c using stack.induct with
  | case1 c ih =>
    rw [stack_eq, chain]
    cases h : c.wrapped? with
    | none =>
      rw [wrapped?] at h
      split at h <;> rename_i hw <;> cases h
      rw [hw]
      rfl
    | some d =>
      have hd := ih d h
      rw [wrapped?] at h
      split at h <;> rename_i hw <;> cases h
      rw [hw, Option.elim_some, List.map_cons, hd]
      rfl

/-- What the errors under a cause say, from the nearest on. -/
theorem sources_eq (c : Cause) : c.sources = c.beneath.map Beneath.text := by
  have hw : c.wrapped = c.stack.tail.map condition := by
    rw [List.map_tail, map_condition_stack, chain, List.tail_cons]
  have hf : c.foreigns.map Beneath.text = match c.root with
      | none => []
      | some error => error.text :: error.beneath := by
    rw [foreigns]
    cases c.root with
    | none => rfl
    | some error => simp [Function.comp_def, Beneath.text]
  rw [sources, beneath_eq, hw, List.map_append, List.map_map, List.map_map, hf]
  rfl

@[simp] theorem wrapped?_around (c : Cause) (id : Nat) (kind : Kind) :
    (c.around id kind).wrapped? = some c := rfl

theorem stack_around (c : Cause) (id : Nat) (kind : Kind) :
    (c.around id kind).stack = c.around id kind :: c.stack := by
  rw [stack_eq, wrapped?_around]
  rfl

end Cause

/-! ## Surfacing -/

/-- The kind of surfaced causes is fatal just if it or an ancestor of it is listed. -/
theorem Policy.isFatal_nonFatal_iff {p : Policy} :
    p.isFatal .nonFatal = true ↔ .nonFatal ∈ p.kinds ∨ .exception ∈ p.kinds ∨ .any ∈ p.kinds := by
  have hl : Kind.nonFatal.lineage = [.nonFatal, .exception, .any] := by
    simp [Kind.lineage_eq, Kind.parent]
  simp only [isFatal_iff, hl, List.mem_cons, List.not_mem_nil, or_false]
  constructor
  · rintro ⟨a, ha, rfl | rfl | rfl⟩
    · exact .inl ha
    · exact .inr (.inl ha)
    · exact .inr (.inr ha)
  · rintro (h | h | h)
    · exact ⟨_, h, .inl rfl⟩
    · exact ⟨_, h, .inr (.inl rfl)⟩
    · exact ⟨_, h, .inr (.inr rfl)⟩

namespace Attempt

/-- Gets the value of an attempt and captures the answer, so many times. -/
def surfacing : Nat → Attempt α → Run σ (Attempt α)
  | 0, t => return t
  | n + 1, t => do surfacing n (← of t.get)

theorem get_failure (c : Captured) (s : Session σ) :
    (failure c : Attempt α).get s =
      (.returned (.error (c.cause.around s.next .nonFatal)), { s with next := s.next + 1 }) := rfl

/-- To get the value of a failure and capture the answer is to fail with a fresh cause. -/
theorem of_get_failure (c : Captured) (s : Session σ) :
    of (failure c : Attempt α).get s =
      fail (c.cause.around s.next .nonFatal) { s with next := s.next + 1 } := rfl

theorem surfacing_success (n : Nat) (a : α) :
    surfacing n (success a) = (pure (success a) : Run σ (Attempt α)) := by
  induction n with
  | zero => rfl
  | succ n ih => exact ih

section Failure

variable {P : Policy} {s : Session σ}

/-- **Surfacing stacks fresh causes** on the cause of a failure where their kind is not fatal, one
each time: numbered upwards from the first condition to be raised, so the last one is on top. -/
theorem surfacing_failure (hs : s.inEffect = P.classifier) (hP : P.isFatal .nonFatal = false)
    (n : Nat) (c : Captured) :
    ∃ (d : Captured) (fresh : List Cause) (s' : Session σ),
      surfacing n (failure c : Attempt α) s = (.returned (failure d), s') ∧
      d.cause.stack = fresh ++ c.cause.stack ∧ d.cause.root = c.cause.root ∧
      fresh.map Cause.id = (List.range' s.next n).reverse ∧
      ∀ e ∈ fresh, e.kind = .nonFatal ∧ e.message = c.cause.message := by
  induction n generalizing c s with
  | zero => exact ⟨c, [], s, rfl, rfl, rfl, rfl, fun _ he => (nomatch he)⟩
  | succ n ih =>
    let top := c.cause.around s.next .nonFatal
    have hf : ({ s with next := s.next + 1 } : Session σ).inEffect.isFatal top = false := by
      show s.inEffect.isFatal top = false
      rw [hs]
      exact hP
    obtain ⟨d, fresh, s', hd, hstack, hroot, hids, hfresh⟩ :=
      ih (s := ({ s with next := s.next + 1 } : Session σ).decided.reporting (.captured top)) hs
        ⟨top⟩
    refine ⟨d, fresh ++ [top], s', ?_, ?_, hroot, ?_, ?_⟩
    · rw [surfacing, Run.bind_of_returned _ ((of_get_failure c s).trans (fail_of_not_fatal hf))]
      exact hd
    · rw [hstack, Cause.stack_around, List.append_assoc, List.singleton_append]
    · rw [List.map_append, hids, List.range'_succ, List.reverse_cons]
      rfl
    · intro e he
      obtain he | he := List.mem_append.mp he
      · exact hfresh e he
      · obtain rfl := List.mem_singleton.mp he
        exact ⟨rfl, rfl⟩

/-- Causes that are numbered upwards, the last one first, have no number below the first. -/
theorem le_id_of_ids {fresh : List Cause} {m n : Nat}
    (h : fresh.map Cause.id = (List.range' m n).reverse) : ∀ e ∈ fresh, m ≤ e.id := by
  intro e he
  have hmem : e.id ∈ fresh.map Cause.id := List.mem_map_of_mem he
  rw [h, List.mem_reverse] at hmem
  exact (List.mem_range'_1.mp hmem).1

/-- Where the kind of surfaced causes is fatal, a failure unwinds as soon as its value is got and
the answer captured, with the fresh cause around the one inside. -/
theorem surfacing_unwinds (hs : s.inEffect = P.classifier) (hP : P.isFatal .nonFatal = true)
    (n : Nat) (c : Captured) :
    (surfacing (n + 1) (failure c : Attempt α) s).1 =
      .thrown (c.cause.around s.next .nonFatal) := by
  have hf : ({ s with next := s.next + 1 } : Session σ).inEffect.isFatal
      (c.cause.around s.next .nonFatal) = true := by
    show s.inEffect.isFatal _ = true
    rw [hs]
    exact hP
  rw [surfacing, Run.bind_apply, of_get_failure, fail_of_fatal hf]

end Failure

/-- A recovery from a stack of causes is for the kind that surfaced causes have. -/
theorem recover_of_kind_eq {d : Captured} {kind : Kind} (hd : d.cause.kind = kind) (k : Kind)
    (f : Checked σ Cause α) :
    (failure d).recover k f = if kind.isA k then of (f d.cause) else pure (failure d) := by
  rw [recover, Cause.isA, hd]

/-- **Surfacing stacks causes and loses none.** Under a policy,

* where the kind of surfaced causes is not fatal, getting the value of a failure `n` times, each
  time capturing the answer, comes to a failure. The causes of its stack are `n` fresh ones of that
  kind, no two of which are the same and none of which was raised before, each with the message of
  the first cause, and then the first cause itself and those under it. The errors under it, each the
  source of the one before, are the other causes of this stack and then the foreign errors that the
  first cause rests on. A recovery runs just if the kind of surfaced causes descends from its kind,
  whatever the kind of the first one;
* where that kind is fatal, as it is just if it or an ancestor of it is listed, the first time
  already unwinds with a fresh cause around the one inside.

A success stays as it is under every policy. To get the value of one failure twice, with anything in
between, gives two different causes around the same one. -/
theorem surfacing_stacks (P : Policy) :
    (∀ (c : Captured) (s : Session σ), s.inEffect = P.classifier → P.isFatal .nonFatal = false →
      ∀ n, ∃ (d : Captured) (fresh : List Cause) (s' : Session σ),
        surfacing n (failure c : Attempt α) s = (.returned (failure d), s') ∧
        fresh.length = n ∧ (fresh.map Cause.id).Nodup ∧
        (∀ e ∈ fresh, s.next ≤ e.id ∧ e.kind = .nonFatal ∧ e.message = c.cause.message) ∧
        d.cause.stack = fresh ++ c.cause.stack ∧
        d.cause.beneath = (fresh ++ c.cause.stack).tail.map .cause ++ c.cause.foreigns ∧
        d.cause.sources = d.cause.beneath.map Beneath.text ∧
        (0 < n → ∀ k (f : Checked σ Cause α),
          (failure d).recover k f =
            if Kind.nonFatal.isA k then of (f d.cause) else pure (failure d))) ∧
    (P.isFatal .nonFatal = true ↔
      .nonFatal ∈ P.kinds ∨ .exception ∈ P.kinds ∨ .any ∈ P.kinds) ∧
    (∀ (c : Captured) (s : Session σ), s.inEffect = P.classifier → P.isFatal .nonFatal = true →
      ∀ n, ∃ e, (surfacing (n + 1) (failure c : Attempt α) s).1 = .thrown e ∧ e.id = s.next ∧
        e.kind = .nonFatal ∧ e.message = c.cause.message ∧ e.wrapped? = some c.cause) ∧
    (∀ n a, surfacing n (success a) = (pure (success a) : Run σ (Attempt α))) ∧
    ∀ (c : Captured) (s : Session σ), ∃ a t,
      (failure c : Attempt α).get s = (.returned (.error a), t) ∧ a.wrapped? = some c.cause ∧
      ∀ s' : Session σ, t.next ≤ s'.next → ∃ b t',
        (failure c : Attempt α).get s' = (.returned (.error b), t') ∧
        b.wrapped? = some c.cause ∧ (a == b) = false := by
  refine ⟨?_, Policy.isFatal_nonFatal_iff, ?_, surfacing_success, ?_⟩
  · intro c s hs hP n
    obtain ⟨d, fresh, s', hd, hstack, hroot, hids, hfresh⟩ := surfacing_failure hs hP n c
    have hid : ∀ e ∈ fresh, s.next ≤ e.id := le_id_of_ids hids
    have hlen : fresh.length = n := by simpa using congrArg List.length hids
    refine ⟨d, fresh, s', hd, hlen, ?_, fun e he => ⟨hid e he, hfresh e he⟩, hstack, ?_,
      d.cause.sources_eq, ?_⟩
    · rw [hids]
      exact List.nodup_reverse.mpr List.nodup_range'
    · rw [Cause.beneath_eq, hstack, Cause.foreigns, hroot, Cause.foreigns]
    · intro hn k f
      cases fresh with
      | nil => simp [← hlen] at hn
      | cons top rest =>
        -- the cause on top is a fresh one
        rw [Cause.stack_eq, List.cons_append] at hstack
        obtain ⟨rfl, -⟩ := List.cons.inj hstack
        exact recover_of_kind_eq (hfresh _ List.mem_cons_self).1 k f
  · intro c s hs hP n
    exact ⟨_, surfacing_unwinds hs hP n c, rfl, rfl, rfl, rfl⟩
  · intro c s
    refine ⟨_, _, get_failure c s, rfl, fun s' hs' => ⟨_, _, get_failure c s', rfl, ?_⟩⟩
    show (s.next == s'.next) = false
    exact beq_eq_false_iff_ne.mpr (Nat.ne_of_lt hs')

/-- A cause surfaces twice under the standard policy, and unwinds at once where exceptions are
fatal. -/
theorem surfaces_twice_or_unwinds :
    let io : Cause := { condition := ⟨0, .io, some "disk"⟩ }
    let s : Session Unit := { Session.start () with next := 1 }
    let strict : Session Unit :=
      { s with classifier := some (Policy.ofList [.exception]).classifier }
    (∃ (d : Captured) (top middle : Cause) (s' : Session Unit),
      surfacing 2 (failure ⟨io⟩ : Attempt Unit) s = (.returned (failure d), s') ∧
      d.cause.stack = [top, middle, io] ∧ top.message = some "disk" ∧ (top == middle) = false ∧
      (failure d).recover .io (fun _ => return .ok ()) = (pure (failure d) : Run Unit _)) ∧
    ∃ e, (surfacing 2 (failure ⟨io⟩ : Attempt Unit) strict).1 = .thrown e ∧ e.id = 1 ∧
      e.kind = .nonFatal ∧ e.wrapped? = some io := by
  intro io s strict
  constructor
  · obtain ⟨hstacks, -⟩ := surfacing_stacks (σ := Unit) (α := Unit) Policy.standard
    obtain ⟨d, fresh, s', hd, hlen, hids, hfresh, hstack, -, -, hrecover⟩ :=
      hstacks ⟨io⟩ s rfl (by decide +kernel) 2
    obtain ⟨top, middle, rfl⟩ := List.length_eq_two.mp hlen
    obtain ⟨-, -, hmessage⟩ := hfresh top List.mem_cons_self
    have hne : (top.id == middle.id) = false := by simpa using hids
    have hio : io.stack = [io] := by
      rw [Cause.stack_eq]
      rfl
    rw [hio] at hstack
    have hnot : Kind.nonFatal.isA .io = false := by decide +kernel
    refine ⟨d, top, middle, s', hd, hstack, hmessage, hne, ?_⟩
    rw [hrecover (by decide), hnot]
    rfl
  · obtain ⟨-, -, hunwinds, -⟩ :=
      surfacing_stacks (σ := Unit) (α := Unit) (Policy.ofList [.exception])
    obtain ⟨e, he, hid, hkind, -, hw⟩ := hunwinds ⟨io⟩ strict rfl (by decide +kernel) 1
    exact ⟨e, he, hid, hkind, hw⟩

end Attempt

end Fallible
