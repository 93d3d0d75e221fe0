import Fallible.Codec.Decode
import Fallible.Codec.Encode
import Fallible.Proofs.Judgement

/-!
# Records of causes

A record tells the kind and the message of every condition of a cause, outermost first. A cause is
written as such a record, one level for each condition, and what is written is read back wherever
there is room for all levels. Raising a record numbers new conditions in order and does nothing else
to a session. A kind travels as its name, and the name of a built-in kind is read as that kind.

## Main definitions

* `Record.number`: new conditions for a chain, numbered from one number on
* `Record.causeFrom`: the cause raised of a record
* `Record.ofChain`: the record of a chain, with every kind as its name is read

## Main results

* `Kind.ofName_name`: the kinds that their names stand for
* `Record.raise_apply`: what raising a record does
* `Record.ofJson_chainToJson`: what is read of a chain that was written
-/

namespace Fallible

variable {σ : Type}

/-! ## Names of kinds -/

namespace Kind

/-- A kind is the one that its name stands for, unless it is caller-defined by a built-in name. -/
theorem ofName_name {k : Kind} (h : ∀ b ∈ builtins, k ≠ .other b.name) : ofName k.name = k := by
  cases k with
  | other name =>
    -- no built-in kind has the name, so the search comes to nothing
    have hn : builtins.find? (·.name == name) = none := by
      rw [List.find?_eq_none]
      intro b hb he
      exact h b hb (congrArg Kind.other (beq_iff_eq.mp he).symm)
    show (builtins.find? (·.name == name)).getD (.other name) = .other name
    rw [hn]
    rfl
  | _ => rfl

theorem ne_other_of_mem_builtins {b : Kind} (hb : b ∈ builtins) (name : String) :
    b ≠ .other name := by
  rintro rfl
  simp [builtins] at hb

/-- No name stands for a kind that is caller-defined by a built-in name. -/
theorem ofName_ne_other (name : String) : ∀ b ∈ builtins, ofName name ≠ .other b.name := by
  intro b hb h
  rw [ofName] at h
  cases hf : builtins.find? (·.name == name) with
  | some k =>
    rw [hf] at h
    exact ne_other_of_mem_builtins (List.mem_of_find?_eq_some hf) b.name h
  | none =>
    rw [hf] at h
    -- the name is not found, so it is not that of a built-in kind
    have hn : name = b.name := Kind.other.inj h
    exact List.find?_eq_none.mp hf b hb (beq_iff_eq.mpr hn.symm)

end Kind

namespace Record

/-! ## Raising -/

/-- Conditions that say what a chain tells, numbered from `n` on. -/
def number (n : Nat) : List (Kind × Option String) → List Condition
  | [] => []
  | (kind, message) :: chain => ⟨n, kind, message⟩ :: number (n + 1) chain

/-- The conditions tell what the chain does. -/
theorem map_number (n : Nat) (chain : List (Kind × Option String)) :
    (number n chain).map (fun c => (c.kind, c.message)) = chain := by
  induction chain generalizing n with
  | nil => rfl
  | cons _ chain ih => simp [number, ih]

theorem length_number (n : Nat) (chain : List (Kind × Option String)) :
    (number n chain).length = chain.length := by
  rw [← List.length_map fun c : Condition => (c.kind, c.message), map_number]

theorem ids_number (n : Nat) (chain : List (Kind × Option String)) :
    (number n chain).map Condition.id = List.range' n chain.length := by
  induction chain generalizing n with
  | nil => rfl
  | cons _ chain ih => simp [number, ih, List.range'_succ]

/-- The cause raised of a record where `n` conditions were raised before. -/
def causeFrom (n : Nat) (r : Record) : Cause where
  condition := ⟨n, r.kind, r.message⟩
  wrapped := number (n + 1) r.wrapped

theorem mapM_condition_apply (chain : List (Kind × Option String)) (s : Session σ) :
    (chain.mapM fun (kind, message) => raise.condition kind message : Run σ (List Condition)) s =
      (.returned (number s.next chain), { s with next := s.next + chain.length }) := by
  induction chain generalizing s with
  | nil => rfl
  | cons told chain ih =>
    rw [List.mapM_cons, Run.bind_apply]
    have hc : (raise.condition told.1 told.2 : Run σ Condition) s =
        (.returned ⟨s.next, told.1, told.2⟩, { s with next := s.next + 1 }) := rfl
    simp only [hc, Run.bind_apply, ih, Run.pure_apply, number, List.length_cons]
    rw [Nat.add_assoc, Nat.add_comm 1]

/-- **Raising a record** takes one number for each condition, and nothing else happens. -/
theorem raise_apply (r : Record) (s : Session σ) :
    r.raise s =
      (.returned (r.causeFrom s.next), { s with next := s.next + r.chain.length }) := by
  have hc : (raise.condition r.kind r.message : Run σ Condition) s =
      (.returned ⟨s.next, r.kind, r.message⟩, { s with next := s.next + 1 }) := rfl
  simp only [raise, Run.bind_apply, hc, mapM_condition_apply, Run.pure_apply, chain,
    List.length_cons, causeFrom]
  rw [Nat.add_assoc, Nat.add_comm 1]

/-! ## Reading -/

/-- The record of a chain, with every kind as its name is read. -/
def ofChain (outer : Condition) (wrapped : List Condition) : Record where
  kind := Kind.ofName outer.kind.name
  message := outer.message
  wrapped := wrapped.map fun c => (Kind.ofName c.kind.name, c.message)

theorem length_chain_ofChain (c : Cause) :
    (ofChain c.condition c.wrapped).chain.length = c.chain.length := by
  simp [chain, ofChain, Cause.chain]

/-- What is written of a chain is an object. -/
theorem exists_chainToJson_eq_object (outer : Condition) (wrapped : List Condition) :
    ∃ members, outer.chainToJson wrapped = .object members := by
  cases wrapped <;> exact ⟨_, rfl⟩

/-- A record is read from its own fields and from the record that it wraps. -/
theorem ofJson_chainToJson_cons (room : Nat) (outer next : Condition) (rest : List Condition) :
    ofJson (room + 1) (outer.chainToJson (next :: rest)) =
      (ofJson room (next.chainToJson rest)).map fun r =>
        { kind := Kind.ofName outer.kind.name, message := outer.message, wrapped := r.chain } := by
  obtain ⟨members, hm⟩ := exists_chainToJson_eq_object next rest
  -- what is wrapped is an object, so it is not read as absent
  have hw : wrapped? (ofJson room) (next.chainToJson rest) =
      some <$> ofJson room (next.chainToJson rest) := by rw [hm]; rfl
  obtain ⟨id, kind, message⟩ := outer
  have hstep : ofJson (room + 1) (Condition.chainToJson ⟨id, kind, message⟩ (next :: rest)) =
      (do
        let w ← wrapped? (ofJson room) (next.chainToJson rest)
        return {
          kind := Kind.ofName kind.name, message, wrapped := (w.map chain).getD [] }) := by
    have hc : Condition.chainToJson ⟨id, kind, message⟩ (next :: rest) =
        .record (("kind", .text kind.name) ::
          ((message.map fun message => ("message", Json.text message)).toList ++
            [("wrapped", next.chainToJson rest)])) := rfl
    rw [hc]
    -- only the fields matter, with or without a message among them
    generalize next.chainToJson rest = j
    cases message with
    | none =>
      show ((_ <$> wrapped? (ofJson room) j) >>= pure) >>= Fields.finish = _
      cases wrapped? (ofJson room) j <;> rfl
    | some message =>
      show ((_ <$> wrapped? (ofJson room) j) >>= pure) >>= Fields.finish = _
      cases wrapped? (ofJson room) j <;> rfl
  rw [hstep, hw]
  cases ofJson room (next.chainToJson rest) <;> rfl

/-- **A chain is read back**, with every kind as its name is read, if there is room for it. -/
theorem ofJson_chainToJson (room : Nat) (outer : Condition) (wrapped : List Condition) :
    ofJson room (outer.chainToJson wrapped) =
      if wrapped.length < room then .ok (ofChain outer wrapped) else .error .shape := by
  induction wrapped generalizing room outer with
  | nil =>
    obtain ⟨id, kind, message⟩ := outer
    cases room <;> cases message <;> rfl
  | cons next rest ih =>
    cases room with
    | zero => rfl
    | succ room =>
      rw [ofJson_chainToJson_cons, ih, List.length_cons]
      -- one level down there is room for one group less, and one condition less
      by_cases h : rest.length < room
      · rw [if_pos h, if_pos (Nat.succ_lt_succ h)]
        rfl
      · rw [if_neg h, if_neg (by omega)]
        rfl

end Record

end Fallible
