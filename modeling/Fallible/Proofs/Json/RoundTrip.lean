import Fallible.Proofs.Json.Literal

/-!
# Documents that were written are read back

A tree is plain when a document can hold it as it is: its numbers are integers of 64 bits, and its
strings name texts. The text that a plain tree is written as is read back as that tree, with nothing
left over. A group needs as much fuel as it is deep and long, for which twice the length of its text
is enough.

## Main definitions

* `Json.Plain`: trees that documents hold as they are
* `Json.ReadsBack`: a tree is read back, whatever follows

## Main results

* `Json.Plain.readsBack`: plain trees are read back
* `Json.read_render`: a whole document is read back
* `Json.Symbol.ofBytes_toUTF8`: the bytes of a text have the symbols of the text
-/

namespace Fallible.Json

/-- A tree that a document holds as it is. -/
inductive Plain : Json → Prop where
  | null : Plain .null
  | bool (b : Bool) : Plain (.bool b)
  | integer {n : Int} (hl : -9223372036854775808 ≤ n) (hg : n < 18446744073709551616) :
      Plain (.integer n)
  | text (s : String) : Plain (.text s)
  | array {items : List Json} (h : ∀ j ∈ items, Plain j) : Plain (.array items)
  | record {members : List (String × Json)} (h : ∀ m ∈ members, Plain m.2) :
      Plain (.record members)

/-- A tree is read back from what it is written as, whatever may follow. -/
def ReadsBack (j : Json) : Prop :=
  ∀ (fuel : Nat) (rest : List Symbol), 2 * (render j).length ≤ fuel → Closes rest →
    readValue fuel ((render j).map some ++ rest) = (j, some rest)

/-! ## What is written -/

theorem renderString_some (s : String) : renderString (some s) = quote s := rfl

theorem render_text (s : String) : render (.text s) = quote s := by
  rw [text, render, renderString_some]

/-- A string starts with a quote. -/
theorem quote_eq_cons (s : String) : quote s = '"' :: (quote s).tail := rfl

theorem render_array (items : List Json) :
    render (.array items) = '[' :: (renderItems items ++ [']']) := by
  rw [render, List.cons_append]

theorem render_object (members : List (Option String × Json)) :
    render (.object members) = '{' :: (renderMembers members ++ ['}']) := by
  rw [render, List.cons_append]

theorem renderItems_cons (j k : Json) (items : List Json) :
    renderItems (j :: k :: items) = render j ++ ',' :: renderItems (k :: items) := by
  rw [renderItems]
  intro h
  cases h

theorem renderMembers_cons (key : Option String) (j : Json) (m : Option String × Json)
    (members : List (Option String × Json)) :
    renderMembers ((key, j) :: m :: members) =
      renderString key ++ ':' :: (render j ++ ',' :: renderMembers (m :: members)) := by
  rw [renderMembers]
  · rw [List.append_assoc, List.cons_append]
  · intro h
    cases h

/-! ## First characters -/

theorem skipBlanks_cons {c : Char} (hc : isBlank c = false) (rest : List Symbol) :
    skipBlanks (some c :: rest) = some c :: rest := by
  simp [skipBlanks, hc]

/-- A character that a value may start with: no blank, and no end of a group. -/
def Opens (c : Char) : Prop :=
  isBlank c = false ∧ c ≠ ']'

theorem ne_of_isDigit {c d : Char} (hc : c.isDigit = true) (hd : d.isDigit = false) : c ≠ d := by
  rintro rfl
  rw [hc] at hd
  cases hd

/-- A number may stand where a value may. -/
theorem opens_of_number {c : Char} (hc : c.isDigit = true ∨ c = '-') : Opens c := by
  obtain hc | rfl := hc
  · refine ⟨?_, ne_of_isDigit hc (by decide)⟩
    have hne : ∀ d : Char, d.isDigit = false → c ≠ d := fun d => ne_of_isDigit hc
    simp [isBlank, hne ' ' (by decide), hne '\n' (by decide), hne '\t' (by decide),
      hne '\r' (by decide)]
  · exact ⟨by decide, by decide⟩

/-- An integer starts with a digit or a sign. -/
theorem exists_toString_eq_cons (n : Int) :
    ∃ c cs, (toString n).toList = c :: cs ∧ (c.isDigit = true ∨ c = '-') := by
  cases n with
  | ofNat n =>
    have ht : (toString (Int.ofNat n)).toList = Nat.toDigits 10 n := Nat.toList_repr
    cases hcs : Nat.toDigits 10 n with
    | nil => exact absurd hcs Nat.toDigits_ne_nil
    | cons c cs =>
      exact ⟨c, cs, ht.trans hcs, .inl (Literal.isDigit_of_mem (hcs ▸ List.mem_cons_self))⟩
  | negSucc n =>
    exact ⟨'-', (Nat.repr (n + 1)).toList, String.toList_append, .inr rfl⟩

theorem Plain.exists_render_eq_cons {j : Json} (hj : Plain j) :
    ∃ c cs, render j = c :: cs ∧ Opens c := by
  cases hj with
  | null => exact ⟨'n', _, rfl, by decide, by decide⟩
  | bool b => cases b <;> exact ⟨_, _, rfl, by decide, by decide⟩
  | @integer n _ _ =>
    obtain ⟨c, cs, hcs, hc⟩ := exists_toString_eq_cons n
    exact ⟨c, cs, hcs, opens_of_number hc⟩
  | text s => exact ⟨'"', _, rfl, by decide, by decide⟩
  | array h => exact ⟨'[', _, rfl, by decide, by decide⟩
  | record h => exact ⟨'{', _, rfl, by decide, by decide⟩

theorem exists_renderItems_eq_cons {j : Json} {items : List Json} (hj : Plain j) :
    ∃ c cs, renderItems (j :: items) = c :: cs ∧ Opens c := by
  obtain ⟨c, cs, hcs, hc⟩ := hj.exists_render_eq_cons
  cases items with
  | nil => exact ⟨c, cs, by rw [renderItems, hcs], hc⟩
  | cons k items =>
    refine ⟨c, cs ++ ',' :: renderItems (k :: items), ?_, hc⟩
    rw [renderItems_cons, hcs, List.cons_append]

theorem exists_renderMembers_eq_cons (key : String) (j : Json)
    (members : List (Option String × Json)) :
    ∃ cs, renderMembers ((some key, j) :: members) = '"' :: cs := by
  cases members with
  | nil => exact ⟨_, by rw [renderMembers, renderString_some, quote_eq_cons, List.cons_append]⟩
  | cons m members =>
    exact ⟨_, by rw [renderMembers_cons, renderString_some, quote_eq_cons, List.cons_append]⟩

/-! ## Symbols of members -/

/-- The last member is its key, a colon and its value. -/
theorem map_renderMembers_singleton (key : String) (j : Json) (rest : List Symbol) :
    (renderMembers [(some key, j)]).map some ++ rest =
      some '"' :: ((quote key).tail.map some ++ some ':' :: ((render j).map some ++ rest)) := by
  rw [renderMembers, renderString_some, quote_eq_cons]
  simp

/-- Any other member is followed by a comma and the next one. -/
theorem map_renderMembers_cons (key : String) (j : Json) (m : Option String × Json)
    (members : List (Option String × Json)) (rest : List Symbol) :
    (renderMembers ((some key, j) :: m :: members)).map some ++ rest =
      some '"' :: ((quote key).tail.map some ++ some ':' :: ((render j).map some ++
        some ',' :: ((renderMembers (m :: members)).map some ++ rest))) := by
  rw [renderMembers_cons, renderString_some, quote_eq_cons]
  simp

/-! ## Single steps -/

section Steps

variable {fuel : Nat} {cs rest : List Symbol} {j : Json}

/-- What opens with a digit or a sign is read as a number. -/
theorem readValue_of_number {c : Char} (hc : c.isDigit = true ∨ c = '-')
    (hn : Literal.number? (some c :: cs) = some (j, rest)) :
    readValue (fuel + 1) (some c :: cs) = (j, some rest) := by
  have other : ∀ (d : Char) tail, d.isDigit = false → d ≠ '-' →
      some c :: cs ≠ some d :: tail := by
    intro d tail hd hm h
    obtain rfl : c = d := Option.some.inj (List.cons.inj h).1
    obtain hc | hc := hc
    · exact ne_of_isDigit hc hd rfl
    · exact hm hc
  rw [readValue, skipBlanks_cons (opens_of_number hc).1]
  split
  -- the words, strings and groups open with other characters
  iterate 6
    · rename_i h
      exact absurd h (other _ _ (by decide) (by decide))
  · rw [hn]

theorem readValue_of_string {s : Option String} (hs : Literal.string? cs = some (s, rest)) :
    readValue (fuel + 1) (some '"' :: cs) = (.string s, some rest) := by
  rw [readValue, skipBlanks_cons (by decide)]
  simp only [hs]

/-- What opens a group that is not empty is read with its items. -/
theorem readValue_of_items {c : Char} {items : List Json} (hc : Opens c)
    (hi : readItems fuel (some c :: cs) = (items, some rest)) :
    readValue (fuel + 1) (some '[' :: some c :: cs) = (.array items, some rest) := by
  rw [readValue, skipBlanks_cons (by decide)]
  simp only [skipBlanks_cons hc.1]
  split
  · rename_i h
    exact absurd (Option.some.inj (List.cons.inj h).1) hc.2
  · rw [hi]

theorem readValue_of_members {members : List (Option String × Json)}
    (hm : readMembers fuel (some '"' :: cs) = (members, some rest)) :
    readValue (fuel + 1) (some '{' :: some '"' :: cs) = (.object members, some rest) := by
  rw [readValue, skipBlanks_cons (by decide)]
  simp only [skipBlanks_cons (show isBlank '"' = false by decide)]
  show (Json.object (readMembers fuel (some '"' :: cs)).1, _) = _
  rw [hm]

theorem readItems_of_bracket (hv : readValue fuel cs = (j, some (some ']' :: rest))) :
    readItems (fuel + 1) cs = ([j], some rest) := by
  rw [readItems, hv]
  simp only [skipBlanks_cons (show isBlank ']' = false by decide)]

theorem readItems_of_comma {items : List Json} {r : Option (List Symbol)}
    (hv : readValue fuel cs = (j, some (some ',' :: rest)))
    (hi : readItems fuel rest = (items, r)) :
    readItems (fuel + 1) cs = (j :: items, r) := by
  rw [readItems, hv]
  simp only [skipBlanks_cons (show isBlank ',' = false by decide), hi]

theorem readMembers_of_brace {key : Option String} {value : List Symbol}
    (hk : Literal.string? cs = some (key, some ':' :: value))
    (hv : readValue fuel value = (j, some (some '}' :: rest))) :
    readMembers (fuel + 1) (some '"' :: cs) = ([(key, j)], some rest) := by
  rw [readMembers, skipBlanks_cons (by decide)]
  simp only [hk, skipBlanks_cons (show isBlank ':' = false by decide), hv,
    skipBlanks_cons (show isBlank '}' = false by decide)]

theorem readMembers_of_comma {key : Option String} {value : List Symbol}
    {members : List (Option String × Json)} {r : Option (List Symbol)}
    (hk : Literal.string? cs = some (key, some ':' :: value))
    (hv : readValue fuel value = (j, some (some ',' :: rest)))
    (hm : readMembers fuel rest = (members, r)) :
    readMembers (fuel + 1) (some '"' :: cs) = ((key, j) :: members, r) := by
  rw [readMembers, skipBlanks_cons (by decide)]
  simp only [hk, skipBlanks_cons (show isBlank ':' = false by decide), hv,
    skipBlanks_cons (show isBlank ',' = false by decide), hm]

end Steps

/-! ## Groups -/

/-- Items are read back up to the bracket that ends them. -/
theorem readItems_renderItems {items : List Json} (hne : items ≠ [])
    (h : ∀ j ∈ items, ReadsBack j) {fuel : Nat} (rest : List Symbol)
    (hf : 2 * (renderItems items).length + 1 ≤ fuel) :
    readItems fuel ((renderItems items).map some ++ some ']' :: rest) = (items, some rest) := by
  induction items generalizing fuel with
  | nil => exact absurd rfl hne
  | cons j items ih =>
    -- one step of fuel goes to the item, and its value is no longer than all items
    obtain ⟨fuel, rfl⟩ : ∃ n, fuel = n + 1 := ⟨fuel - 1, by omega⟩
    have hj := h j List.mem_cons_self
    cases items with
    | nil =>
      simp only [renderItems] at hf ⊢
      exact readItems_of_bracket (hj fuel _ (by omega) (closes_bracket rest))
    | cons k items =>
      have hi : ∀ i ∈ k :: items, ReadsBack i := fun i hi => h i (List.mem_cons_of_mem j hi)
      rw [renderItems_cons, List.length_append, List.length_cons] at hf
      rw [renderItems_cons, List.map_append, List.map_cons, List.append_assoc, List.cons_append]
      exact readItems_of_comma (hj fuel _ (by omega) (closes_comma _))
        (ih (by simp) hi (by omega))

/-- Members are read back up to the brace that ends them, if every key is a text. -/
theorem readMembers_renderMembers {members : List (Option String × Json)} (hne : members ≠ [])
    (h : ∀ m ∈ members, (∃ key, m.1 = some key) ∧ ReadsBack m.2) {fuel : Nat}
    (rest : List Symbol) (hf : 2 * (renderMembers members).length + 1 ≤ fuel) :
    readMembers fuel ((renderMembers members).map some ++ some '}' :: rest) =
      (members, some rest) := by
  induction members generalizing fuel with
  | nil => exact absurd rfl hne
  | cons m members ih =>
    obtain ⟨fuel, rfl⟩ : ∃ n, fuel = n + 1 := ⟨fuel - 1, by omega⟩
    obtain ⟨k, j⟩ := m
    obtain ⟨⟨key, rfl⟩, hj⟩ := h _ List.mem_cons_self
    change ReadsBack j at hj
    cases members with
    | nil =>
      rw [renderMembers, List.length_append, List.length_cons] at hf
      rw [map_renderMembers_singleton]
      exact readMembers_of_brace (Literal.string?_quote key)
        (hj fuel _ (by omega) (closes_brace rest))
    | cons m members =>
      have hm : ∀ m' ∈ m :: members, (∃ key, m'.1 = some key) ∧ ReadsBack m'.2 :=
        fun m' hm' => h m' (List.mem_cons_of_mem _ hm')
      rw [renderMembers_cons] at hf
      simp only [List.length_append, List.length_cons] at hf
      rw [map_renderMembers_cons]
      exact readMembers_of_comma (Literal.string?_quote key) (hj fuel _ (by omega) (closes_comma _))
        (ih (by simp) hm (by omega))

theorem readsBack_array {items : List Json} (hp : ∀ j ∈ items, Plain j)
    (h : ∀ j ∈ items, ReadsBack j) : ReadsBack (.array items) := by
  rw [ReadsBack, render_array]
  rintro (_ | fuel) rest hf -
  · cases hf
  · cases items with
    | nil => rfl
    | cons j items =>
      have hlen : 2 * (renderItems (j :: items)).length + 1 ≤ fuel := by
        simp only [List.length_cons, List.length_append, List.length_nil] at hf
        omega
      -- the first item is no blank and no bracket, so items are read
      have hi := readItems_renderItems (List.cons_ne_nil j items) h rest hlen
      obtain ⟨c, cs, hcs, hc⟩ : ∃ c cs, renderItems (j :: items) = c :: cs ∧ Opens c :=
        exists_renderItems_eq_cons (hp j List.mem_cons_self)
      rw [hcs, List.map_cons, List.cons_append] at hi
      rw [List.map_cons, List.map_append, List.cons_append, List.append_assoc, hcs, List.map_cons,
        List.cons_append]
      exact readValue_of_items hc hi

theorem readsBack_object {members : List (Option String × Json)}
    (h : ∀ m ∈ members, (∃ key, m.1 = some key) ∧ ReadsBack m.2) : ReadsBack (.object members) := by
  rw [ReadsBack, render_object]
  rintro (_ | fuel) rest hf -
  · cases hf
  · cases members with
    | nil => rfl
    | cons m members =>
      have hlen : 2 * (renderMembers (m :: members)).length + 1 ≤ fuel := by
        simp only [List.length_cons, List.length_append, List.length_nil] at hf
        omega
      -- the first key is a string, so members are read
      have hm := readMembers_renderMembers (List.cons_ne_nil m members) h rest hlen
      obtain ⟨k, j⟩ := m
      obtain ⟨key, rfl⟩ := (h _ List.mem_cons_self).1
      obtain ⟨cs, hcs⟩ := exists_renderMembers_eq_cons key j members
      rw [hcs, List.map_cons, List.cons_append] at hm
      rw [List.map_cons, List.map_append, List.cons_append, List.append_assoc, hcs, List.map_cons,
        List.cons_append]
      exact readValue_of_members hm

/-! ## Trees -/

/-- **Plain trees are read back**, by induction on the tree. -/
theorem Plain.readsBack {j : Json} (hj : Plain j) : ReadsBack j := by
  induction hj with
  | null =>
    rintro (_ | fuel) rest hf -
    · simp [render] at hf
    · rfl
  | bool b =>
    rintro (_ | fuel) rest hf -
    · cases b <;> simp [render] at hf
    · cases b <;> rfl
  | @integer n hl hg =>
    intro fuel rest hf hr
    -- the sign or first digit tells that a number is to be read
    obtain ⟨c, cs, hcs, hc⟩ := exists_toString_eq_cons n
    have hn := Literal.number?_toString hl hg hr
    have hrender : render (.integer n) = c :: cs := hcs
    rw [hcs, List.map_cons, List.cons_append] at hn
    rw [hrender] at hf ⊢
    obtain ⟨fuel, rfl⟩ : ∃ m, fuel = m + 1 := ⟨fuel - 1, by rw [List.length_cons] at hf; omega⟩
    exact readValue_of_number hc hn
  | text s =>
    rw [ReadsBack, render_text, quote_eq_cons]
    rintro (_ | fuel) rest hf -
    · cases hf
    · exact readValue_of_string (Literal.string?_quote s)
  | array h ih => exact readsBack_array h ih
  | record h ih =>
    refine readsBack_object (List.forall_mem_map.mpr fun m hm => ?_)
    exact ⟨⟨m.1, rfl⟩, ih m hm⟩

/-- **A whole document is read back.** -/
theorem read_render {j : Json} (hj : Plain j) : read ((render j).map some) = ⟨j, true⟩ := by
  have hv := hj.readsBack (2 * (render j).length + 1) [] (by omega) closes_nil
  rw [List.append_nil] at hv
  rw [read, List.length_map, hv]
  rfl

/-! ## Bytes -/

namespace Symbol

/-- Bytes that spell characters, after others, have those characters for symbols. -/
theorem ofBytesFrom_append (before : ByteArray) (cs : List Char) :
    ofBytesFrom (before ++ cs.utf8Encode) before.size = cs.map some := by
  induction cs generalizing before with
  | nil =>
    rw [ofBytesFrom, List.utf8Encode_nil, ByteArray.append_empty, if_neg (Nat.lt_irrefl _)]
    rfl
  | cons c cs ih =>
    have hsize : [c].utf8Encode.size = c.utf8Size := by
      simp [List.utf8Encode_singleton]
    have hlt : before.size < (before ++ (c :: cs).utf8Encode).size := by
      have hpos := c.utf8Size_pos
      rw [List.utf8Encode_cons, ByteArray.size_append, ByteArray.size_append, hsize]
      omega
    -- the bytes at hand are those of the next character
    have hdecode : (before ++ (c :: cs).utf8Encode).utf8DecodeChar? before.size = some c := by
      rw [ByteArray.utf8DecodeChar?_eq_utf8DecodeChar?_extract,
        ByteArray.extract_append_eq_right rfl ByteArray.size_append,
        List.utf8DecodeChar?_utf8Encode_cons]
    -- ... and after it the induction goes on, with its bytes among those before
    have hnext := ih (before ++ [c].utf8Encode)
    rw [ByteArray.append_assoc, ← List.utf8Encode_cons, ByteArray.size_append, hsize] at hnext
    rw [ofBytesFrom, if_pos hlt, hdecode]
    simp only [hnext, List.map_cons]

/-- The bytes of a text have the symbols of the text. -/
theorem ofBytes_toUTF8 (text : String) : ofBytes text.toUTF8 = ofText text := by
  have h := ofBytesFrom_append .empty text.toList
  rw [ByteArray.empty_append, String.utf8Encode_toList] at h
  exact h

end Symbol

end Fallible.Json
