import Fallible.Toml.Document
import Mathlib.Data.Option.Basic

/-!
# No key twice

A table that is read of a document has no key twice, and neither has any table inside it. Tables
come into being by adding entries under keys that are new, or by changing the entry of a key in
place; a document does nothing else, whichever of the ways of writing tables it uses.

## Main definitions

* `Toml.Keyed`: entries under different keys
* `Toml.Distinct`, `Toml.Draft.Distinct`: no table inside has a key twice
* `Toml.Keeps`, `Toml.Fills`: changes that bring no key in twice
* `Toml.Reads`: what the readers of values give within so much fuel

## Main results

* `Toml.Keyed.update`: changing the entry of one key
* `Toml.reads`: what is read of values
* `Toml.keyed_of_ofText?`: what is read of a document
-/

namespace Fallible.Toml

/-- Entries under different keys, each of which satisfies `P`. -/
structure Keyed {β : Type} (P : β → Prop) (entries : List (String × β)) : Prop where
  nodup : (entries.map Prod.fst).Nodup
  forall_mem : ∀ e ∈ entries, P e.2

/-- No table inside a value has a key twice. -/
inductive Distinct : Toml → Prop where
  | scalar {v : Toml} (ha : ∀ items, v ≠ .array items) (ht : ∀ entries, v ≠ .table entries) :
    Distinct v
  | array {items : List Toml} (h : ∀ item ∈ items, Distinct item) : Distinct (.array items)
  | table {entries : List (String × Toml)} (hk : (entries.map Prod.fst).Nodup)
    (h : ∀ e ∈ entries, Distinct e.2) : Distinct (.table entries)

/-- No table inside an entry under construction has a key twice. -/
inductive Draft.Distinct : Draft → Prop where
  | value {v : Toml} (h : v.Distinct) : Distinct (.value v)
  | table {origin : Origin} {entries : Drafts} (hk : (entries.map Prod.fst).Nodup)
    (h : ∀ e ∈ entries, Distinct e.2) : Distinct (.table origin entries)
  | tables {earlier : List Drafts} {last : Drafts}
    (hk : ∀ t ∈ last :: earlier, (t.map Prod.fst).Nodup)
    (h : ∀ t ∈ last :: earlier, ∀ e ∈ t, Distinct e.2) : Distinct (.tables earlier last)

theorem Keyed.nil {β : Type} {P : β → Prop} : Keyed P [] :=
  ⟨List.nodup_nil, fun _ h => (nomatch h)⟩

/-! ## Tables under construction -/

/-- A change of an entry that brings no key in twice. -/
def Keeps (f : Option Draft → Option Draft) : Prop :=
  ∀ o d, f o = some d → (∀ d' ∈ o, d'.Distinct) → d.Distinct

/-- A change of a table that brings no key in twice. -/
def Fills (fill : Drafts → Option Drafts) : Prop :=
  ∀ entries entries', fill entries = some entries' → Keyed Draft.Distinct entries →
    Keyed Draft.Distinct entries'

section Drafts

variable {key : String} {f : Option Draft → Option Draft} {entries entries' : Drafts}

theorem mem_keys_of_update (h : Drafts.update key f entries = some entries') {k : String}
    (hk : k ∈ entries'.map Prod.fst) : k ∈ entries.map Prod.fst ∨ k = key := by
  induction entries generalizing entries' with
  | nil =>
    obtain ⟨d, -, h⟩ := Option.bind_eq_some_iff.mp h
    cases h
    exact .inr (List.mem_singleton.mp hk)
  | cons e entries ih =>
    rw [Drafts.update] at h
    split at h
    · obtain ⟨d, -, h⟩ := Option.bind_eq_some_iff.mp h
      cases h
      exact .inl hk
    · obtain ⟨rest, hr, h⟩ := Option.bind_eq_some_iff.mp h
      cases h
      obtain rfl | hk := List.mem_cons.mp hk
      · exact .inl List.mem_cons_self
      · exact (ih hr hk).imp_left (List.mem_cons_of_mem _)

/-- **Changing the entry of one key**, or adding one, brings no key in twice if what is put there
does not. -/
theorem Keyed.update (he : Keyed Draft.Distinct entries) (hf : Keeps f)
    (h : Drafts.update key f entries = some entries') : Keyed Draft.Distinct entries' := by
  induction entries generalizing entries' with
  | nil =>
    obtain ⟨d, hd, h⟩ := Option.bind_eq_some_iff.mp h
    cases h
    refine ⟨List.nodup_cons.mpr ⟨List.not_mem_nil, List.nodup_nil⟩, fun e he => ?_⟩
    obtain rfl := List.mem_singleton.mp he
    exact hf none d hd fun _ h => (nomatch h)
  | cons e entries ih =>
    obtain ⟨hn, hrest⟩ := List.nodup_cons.mp he.nodup
    obtain ⟨hd, hds⟩ := List.forall_mem_cons.mp he.forall_mem
    rw [Drafts.update] at h
    split at h
    · obtain ⟨d, hd', h⟩ := Option.bind_eq_some_iff.mp h
      cases h
      have hnew : d.Distinct := by
        refine hf _ d hd' fun d' hd'' => ?_
        cases hd''
        exact hd
      exact ⟨he.nodup, List.forall_mem_cons.mpr ⟨hnew, hds⟩⟩
    · rename_i hne
      obtain ⟨rest, hr, h⟩ := Option.bind_eq_some_iff.mp h
      cases h
      have ht := ih ⟨hrest, hds⟩ hr
      refine ⟨List.nodup_cons.mpr ⟨fun hm => ?_, ht.nodup⟩,
        List.forall_mem_cons.mpr ⟨hd, ht.forall_mem⟩⟩
      exact (mem_keys_of_update hr hm).elim hn hne

theorem Draft.Distinct.keyed {origin : Origin} (h : (Draft.table origin entries).Distinct) :
    Keyed Draft.Distinct entries := by
  cases h with
  | table hk h => exact ⟨hk, h⟩

theorem Draft.Distinct.keyed_last {earlier : List Drafts}
    (h : (Draft.tables earlier entries).Distinct) : Keyed Draft.Distinct entries := by
  cases h with
  | tables hk h => exact ⟨hk _ List.mem_cons_self, h _ List.mem_cons_self⟩

/-- An array of tables whose last table was changed, or followed by one more. -/
theorem Keyed.tables {earlier earlier' : List Drafts} (he : Keyed Draft.Distinct entries')
    (h : (Draft.tables earlier entries).Distinct) (hs : ∀ t ∈ earlier', t ∈ entries :: earlier) :
    (Draft.tables earlier' entries').Distinct := by
  cases h with
  | tables hk h =>
    exact .tables (List.forall_mem_cons.mpr ⟨he.nodup, fun t ht => hk t (hs t ht)⟩)
      (List.forall_mem_cons.mpr ⟨he.forall_mem, fun t ht => h t (hs t ht)⟩)

/-- Filling a new table, or one there is, gives a table. -/
theorem Fills.table {fill : Drafts → Option Drafts} (hfill : Fills fill)
    (he : Keyed Draft.Distinct entries) {origin : Origin} {d : Draft}
    (h : (do return .table origin (← fill entries)) = some d) : d.Distinct := by
  obtain ⟨inner, hi, h⟩ := Option.bind_eq_some_iff.mp h
  cases h
  have hk := hfill _ _ hi he
  exact .table hk.nodup hk.forall_mem

/-- Filling the last table of an array of tables. -/
theorem Fills.tables {fill : Drafts → Option Drafts} (hfill : Fills fill)
    {earlier : List Drafts} (ht : (Draft.tables earlier entries).Distinct) {d : Draft}
    (h : (do return .tables earlier (← fill entries)) = some d) : d.Distinct := by
  obtain ⟨inner, hi, h⟩ := Option.bind_eq_some_iff.mp h
  cases h
  exact (hfill _ _ hi ht.keyed_last).tables ht fun t => List.mem_cons_of_mem _

/-- Adding a value under a key with dots. -/
theorem fills_insert {v : Toml} (hv : v.Distinct) (path : List String) (key : String) :
    Fills (Drafts.insert path key v) := by
  induction path with
  | nil =>
    intro entries entries' h he
    refine he.update (fun o d ho _ => ?_) h
    cases o with
    | none =>
      cases ho
      exact .value hv
    | some d' => cases ho
  | cons k path ih =>
    intro entries entries' h he
    refine he.update (fun o d ho hd => ?_) h
    cases o with
    | none => exact ih.table .nil ho
    | some d' =>
      have hd := hd d' rfl
      cases d' with
      | value v' => cases ho
      | table origin inner =>
        cases origin with
        | header => cases ho
        | implied | dotted => exact ih.table hd.keyed ho
      | tables earlier last =>
        simp only at ho
        split at ho
        · cases ho
        · exact ih.tables hd ho

/-- Going down a path and changing the entry at its end. -/
theorem fills_descend (hf : Keeps f) (path : List String) (key : String) :
    Fills (Drafts.descend f path key) := by
  induction path with
  | nil =>
    intro entries entries' h he
    exact he.update hf h
  | cons k path ih =>
    intro entries entries' h he
    refine he.update (fun o d ho hd => ?_) h
    cases o with
    | none => exact ih.table .nil ho
    | some d' =>
      have hd := hd d' rfl
      cases d' with
      | value v' => cases ho
      | table origin inner => exact ih.table hd.keyed ho
      | tables earlier last => exact ih.tables hd ho

theorem fills_openTable {fill : Drafts → Option Drafts} (hfill : Fills fill) (path : List String)
    (key : String) : Fills (Drafts.openTable fill path key) := by
  refine fills_descend (fun o d ho hd => ?_) path key
  cases o with
  | none => exact hfill.table .nil ho
  | some d' =>
    have hd := hd d' rfl
    cases d' with
    | value v' => cases ho
    | table origin inner =>
      cases origin with
      | implied => exact hfill.table hd.keyed ho
      | header | dotted => cases ho
    | tables earlier last => cases ho

theorem fills_openItem {fill : Drafts → Option Drafts} (hfill : Fills fill) (path : List String)
    (key : String) : Fills (Drafts.openItem fill path key) := by
  refine fills_descend (fun o d ho hd => ?_) path key
  cases o with
  | none =>
    obtain ⟨last, hl, h⟩ := Option.bind_eq_some_iff.mp ho
    cases h
    have hk := hfill _ _ hl .nil
    exact .tables (List.forall_mem_singleton.mpr hk.nodup)
      (List.forall_mem_singleton.mpr hk.forall_mem)
  | some d' =>
    have hd := hd d' rfl
    cases d' with
    | value v' => cases ho
    | table origin inner => cases ho
    | tables earlier last =>
      obtain ⟨next, hn, h⟩ := Option.bind_eq_some_iff.mp ho
      cases h
      refine (hfill _ _ hn .nil).tables hd fun t ht => ?_
      rw [List.mem_append, List.mem_singleton] at ht
      exact List.mem_cons.mpr ht.symm

end Drafts

/-! ## Tables that are complete -/

theorem finish_eq_map (entries : Drafts) :
    Drafts.finish entries = entries.map fun e => (e.1, Drafts.finishDraft e.2) := by
  induction entries with
  | nil => rfl
  | cons e entries ih => rw [Drafts.finish, ih, List.map_cons]

theorem finishAll_eq_map (tables : List Drafts) :
    Drafts.finishAll tables = tables.map fun t => .table (Drafts.finish t) := by
  induction tables with
  | nil => rfl
  | cons t tables ih => rw [Drafts.finishAll, ih, List.map_cons]

/-- Completing a table keeps its keys. -/
theorem map_fst_finish (entries : Drafts) :
    (Drafts.finish entries).map Prod.fst = entries.map Prod.fst := by
  rw [finish_eq_map, List.map_map]
  rfl

theorem Keyed.distinct {entries : List (String × Toml)} (h : Keyed Distinct entries) :
    (Toml.table entries).Distinct :=
  .table h.nodup h.forall_mem

theorem Keyed.finish_of {entries : Drafts}
    (h : Keyed (fun d => (Drafts.finishDraft d).Distinct) entries) :
    Keyed Distinct (Drafts.finish entries) := by
  refine ⟨map_fst_finish entries ▸ h.nodup, fun e he => ?_⟩
  rw [finish_eq_map] at he
  obtain ⟨d, hd, rfl⟩ := List.mem_map.mp he
  exact h.forall_mem d hd

/-- Completing a table under construction brings no key in twice. -/
theorem Draft.Distinct.finish {d : Draft} (h : d.Distinct) : (Drafts.finishDraft d).Distinct := by
  induction h with
  | value h => exact h
  | table hk _ ih => exact (Keyed.finish_of ⟨hk, ih⟩).distinct
  | @tables earlier last hk _ ih =>
    have hall (t : Drafts) (ht : t ∈ last :: earlier) : (Toml.table (Drafts.finish t)).Distinct :=
      (Keyed.finish_of ⟨hk t ht, ih t ht⟩).distinct
    refine .array fun item hi => ?_
    rw [finishAll_eq_map] at hi
    obtain hi | hi := List.mem_append.mp hi
    · obtain ⟨t, ht, rfl⟩ := List.mem_map.mp hi
      exact hall t (List.mem_cons_of_mem _ ht)
    · obtain rfl := List.mem_singleton.mp hi
      exact hall last List.mem_cons_self

theorem Keyed.finish {entries : Drafts} (h : Keyed Draft.Distinct entries) :
    Keyed Distinct (Drafts.finish entries) :=
  .finish_of ⟨h.nodup, fun e he => (h.forall_mem e he).finish⟩

/-! ## Reading -/

/-- What is read after something else was read. -/
theorem forall_mem_bind {α β : Type} {P : β → Prop} {o : Option α} {f : α → Option β}
    (h : ∀ a ∈ o, ∀ b ∈ f a, P b) : ∀ b ∈ o >>= f, P b := by
  intro b hb
  obtain ⟨a, ha, hb⟩ := Option.bind_eq_some_iff.mp hb
  exact h a ha b hb

theorem forall_mem_some {α : Type} {P : α → Prop} {a : α} (h : P a) : ∀ b ∈ some a, P b := by
  intro b hb
  cases hb
  exact h

theorem forall_mem_ite {α : Type} {P : α → Prop} {p : Prop} [Decidable p] {o o' : Option α}
    (h : ∀ a ∈ o, P a) (h' : ∀ a ∈ o', P a) : ∀ a ∈ if p then o else o', P a := by
  split
  · exact h
  · exact h'

theorem distinct_integer? (cs : List Char) : ∀ v ∈ integer? cs, v.Distinct := by
  have based {base : Nat} {isDigit : Char → Bool} {cs : List Char} :
      ∀ v ∈ based? base isDigit cs, v.Distinct := by
    refine forall_mem_ite (forall_mem_some (.scalar nofun nofun)) ?_
    exact Option.forall_mem_map.mpr fun _ _ => .scalar nofun nofun
  unfold integer?
  split
  case h_4 =>
    refine forall_mem_bind fun _ _ => forall_mem_bind fun _ _ => forall_mem_bind fun _ _ =>
      forall_mem_bind fun _ _ => forall_mem_some ?_
    exact iteInduction (fun _ => .scalar nofun nofun) fun _ => .scalar nofun nofun
  all_goals exact based

theorem distinct_float? (cs : List Char) : ∀ v ∈ float? cs, v.Distinct := by
  have number {d : Decimal} :
      (if d.nearest.isInf then unvalued else float d.nearest).Distinct :=
    iteInduction (fun _ => .scalar nofun nofun) fun _ => .scalar nofun nofun
  rw [float?]
  dsimp only
  refine forall_mem_ite (forall_mem_some (.scalar nofun nofun)) ?_
  refine forall_mem_ite (forall_mem_some (.scalar nofun nofun)) ?_
  refine forall_mem_bind fun _ _ => forall_mem_bind fun _ _ => forall_mem_bind fun _ _ => ?_
  -- there may be a power, and then there may be a fraction
  split <;> refine forall_mem_bind fun _ _ => ?_
  all_goals
    split <;> exact forall_mem_bind fun _ _ => forall_mem_bind fun _ _ => forall_mem_some number

theorem distinct_ofWord? (cs : List Char) : ∀ v ∈ ofWord? cs, v.Distinct := by
  refine forall_mem_ite (forall_mem_some (.scalar nofun nofun)) ?_
  refine forall_mem_ite (forall_mem_some (.scalar nofun nofun)) fun v hv => ?_
  obtain hv | ⟨-, hv⟩ := (Option.orElse_eq_some ..).mp hv
  · exact distinct_integer? cs v hv
  obtain hv | ⟨-, hv⟩ := (Option.orElse_eq_some ..).mp hv
  · exact distinct_float? cs v hv
  · exact forall_mem_ite (forall_mem_some (.scalar nofun nofun)) (fun _ hv => (nomatch hv)) v hv

/-- What is written without quotes is no group. -/
theorem distinct_word? (cs : List Char) : ∀ r ∈ word? cs, r.1.Distinct :=
  Option.forall_mem_map.mpr (distinct_ofWord? (spanWord cs).1)

/-- What the readers of values and of what is inside them give, within so much fuel. -/
structure Reads (fuel : Nat) : Prop where
  value : ∀ room cs, ∀ r ∈ readValue room fuel cs, r.1.Distinct
  items : ∀ room cs, ∀ r ∈ readItems room fuel cs, ∀ item ∈ r.1, item.Distinct
  entries : ∀ room es cs, Keyed Draft.Distinct es → ∀ r ∈ readEntries room fuel es cs,
    Keyed Draft.Distinct r.1

section Reads

variable {fuel : Nat}

theorem Reads.value_succ (h : Reads fuel) (room : Nat) (cs : List Char) :
    ∀ r ∈ readValue room (fuel + 1) cs, r.1.Distinct := by
  unfold readValue
  dsimp only
  split
  · refine forall_mem_bind fun _ _ => forall_mem_bind fun _ _ => forall_mem_bind fun r hr => ?_
    exact forall_mem_some (.array (h.items _ _ r hr))
  · refine forall_mem_bind fun _ _ => forall_mem_bind fun _ _ => forall_mem_bind fun r hr => ?_
    exact forall_mem_some (h.entries _ _ _ .nil r hr).finish.distinct
  · refine forall_mem_ite ?_ (distinct_word? cs)
    exact forall_mem_bind fun _ _ => forall_mem_some (.scalar nofun nofun)

theorem Reads.items_succ (h : Reads fuel) (room : Nat) (cs : List Char) :
    ∀ r ∈ readItems room (fuel + 1) cs, ∀ item ∈ r.1, item.Distinct := by
  rw [readItems.eq_def]
  split
  · contradiction
  · exact forall_mem_some fun _ hi => (nomatch hi)
  · rename_i hfuel _
    cases hfuel
    refine forall_mem_bind fun r hr => forall_mem_bind fun _ _ => ?_
    have hitem := h.value _ _ r hr
    split
    · refine forall_mem_bind fun _ _ => forall_mem_bind fun r' hr' => forall_mem_some ?_
      exact List.forall_mem_cons.mpr ⟨hitem, h.items _ _ r' hr'⟩
    · exact forall_mem_some (List.forall_mem_singleton.mpr hitem)
    · exact fun _ hr => (nomatch hr)

theorem Reads.entries_succ (h : Reads fuel) (room : Nat) (es : Drafts) (cs : List Char)
    (he : Keyed Draft.Distinct es) :
    ∀ r ∈ readEntries room (fuel + 1) es cs, Keyed Draft.Distinct r.1 := by
  rw [readEntries.eq_def]
  split
  · contradiction
  · exact forall_mem_some he
  · rename_i hfuel _
    cases hfuel
    refine forall_mem_bind fun p _ => forall_mem_bind fun _ _ => forall_mem_bind fun _ _ =>
      forall_mem_bind fun _ _ => forall_mem_bind fun r hr => forall_mem_bind fun es' hes' =>
      forall_mem_bind fun _ _ => ?_
    have he' := fills_insert (h.value _ _ r hr) p.1.1 p.1.2 _ _ hes' he
    split
    · exact forall_mem_bind fun _ _ => h.entries _ _ _ he'
    · exact forall_mem_some he'
    · exact fun _ hr => (nomatch hr)

end Reads

/-- **What is read of values** has no key twice, at any depth. -/
theorem reads (fuel : Nat) : Reads fuel := by
  induction fuel with
  | zero =>
    refine ⟨fun _ _ _ hr => ?_, fun _ _ _ hr => ?_, fun _ _ _ _ _ hr => ?_⟩
    · cases hr
    · cases hr
    · cases hr
  | succ fuel ih => exact ⟨ih.value_succ, ih.items_succ, ih.entries_succ⟩

theorem distinct_pair? (cs : List Char) : ∀ r ∈ pair? cs, r.1.2.2.Distinct := by
  refine forall_mem_bind fun _ _ => forall_mem_bind fun _ _ => forall_mem_bind fun r hr =>
    forall_mem_bind fun _ _ => forall_mem_some ?_
  exact (reads _).value _ _ r hr

/-- The values of pairs have no key twice. -/
def Section.Distinct (s : Section) : Prop :=
  ∀ p ∈ s.pairs, p.2.2.Distinct

theorem distinct_sections? (fuel : Nat) (cs : List Char) : ∀ r ∈ sections? fuel cs,
    ∀ s ∈ ⟨.document, r.1⟩ :: r.2, Section.Distinct s := by
  induction fuel generalizing cs with
  | zero => exact fun _ hr => (nomatch hr)
  | succ fuel ih =>
    refine forall_mem_bind fun _ _ => ?_
    split
    · refine forall_mem_some (List.forall_mem_singleton.mpr fun _ hp => ?_)
      cases hp
    · refine forall_mem_bind fun h _ => forall_mem_bind fun r hr => forall_mem_some ?_
      obtain ⟨hpairs, hsections⟩ := List.forall_mem_cons.mp (ih _ r hr)
      refine List.forall_mem_cons.mpr ⟨fun _ hp => (nomatch hp), ?_⟩
      exact List.forall_mem_cons.mpr ⟨hpairs, hsections⟩
    · refine forall_mem_bind fun p hp => forall_mem_bind fun r hr => forall_mem_some ?_
      obtain ⟨hpairs, hsections⟩ := List.forall_mem_cons.mp (ih _ r hr)
      have hpair := distinct_pair? _ p hp
      exact List.forall_mem_cons.mpr ⟨List.forall_mem_cons.mpr ⟨hpair, hpairs⟩, hsections⟩

/-! ## Documents -/

theorem Fills.foldlM {α : Type} {fill : Drafts → α → Option Drafts} {xs : List α}
    (h : ∀ x ∈ xs, Fills (fill · x)) : Fills fun es => xs.foldlM fill es := by
  induction xs with
  | nil =>
    intro es es' hes he
    cases hes
    exact he
  | cons x xs ih =>
    obtain ⟨hx, hxs⟩ := List.forall_mem_cons.mp h
    intro es es' hes he
    obtain ⟨es₁, h₁, h₂⟩ := Option.bind_eq_some_iff.mp hes
    exact ih hxs _ _ h₂ (hx _ _ h₁ he)

theorem Section.Distinct.fills_fill {s : Section} (h : s.Distinct) : Fills (fill s.pairs) :=
  Fills.foldlM fun p hp => fills_insert (h p hp) p.1 p.2.1

theorem Section.Distinct.fills_place {s : Section} (h : s.Distinct) : Fills (place · s) := by
  obtain ⟨header, pairs⟩ := s
  cases header with
  | document => exact h.fills_fill
  | table path key => exact fills_openTable h.fills_fill path key
  | item path key => exact fills_openItem h.fills_fill path key

/-- **What is read of a document** has no key twice, at any depth. -/
theorem keyed_of_ofText? {text : String} {entries : List (String × Toml)}
    (h : ofText? text = some entries) : Keyed Distinct entries := by
  obtain ⟨⟨pairs, sections⟩, hs, h⟩ := Option.bind_eq_some_iff.mp h
  obtain ⟨es, hes, h⟩ := Option.bind_eq_some_iff.mp h
  cases h
  have hfills := Fills.foldlM fun s hm => (distinct_sections? _ _ _ hs s hm).fills_place
  exact (hfills _ _ hes .nil).finish

/-- A table that stands in a document has no key twice. -/
theorem Keyed.nodup_table {entries t : List (String × Toml)} (h : Keyed Distinct entries)
    {key : String} (ht : (key, .table t) ∈ entries) : (t.map Prod.fst).Nodup := by
  cases h.forall_mem _ ht with
  | scalar _ hn => exact absurd rfl (hn t)
  | table hk _ => exact hk

end Fallible.Toml
