import Fallible.Json.Printer
import Fallible.Json.Reader
import Mathlib.Data.Option.Basic

/-!
# Literals that were written are read back

A number ends where no digit, point or power of ten follows, so an integer of 64 bits is read back
in front of whatever may follow a value. A string ends at its closing quote, and every character is
written so that it is read as one piece that names it.

## Main definitions

* `Json.Closes`: what may follow a value
* `Json.Literal.pieceOf`: the piece that a written character is read as

## Main results

* `Json.Literal.number?_toString`: integers are read back
* `Json.Literal.string?_quote`: strings are read back
-/

namespace Fallible.Json

/-- What may follow a value inside of a group or at the end. -/
def Closes (rest : List Symbol) : Prop :=
  ∀ x ∈ rest.head?, x = some ',' ∨ x = some ']' ∨ x = some '}'

theorem closes_nil : Closes [] := fun _ hx => nomatch hx

theorem closes_comma (rest : List Symbol) : Closes (some ',' :: rest) := by
  rintro _ ⟨⟩
  exact .inl rfl

theorem closes_bracket (rest : List Symbol) : Closes (some ']' :: rest) := by
  rintro _ ⟨⟩
  exact .inr (.inl rfl)

theorem closes_brace (rest : List Symbol) : Closes (some '}' :: rest) := by
  rintro _ ⟨⟩
  exact .inr (.inr rfl)

namespace Literal

variable {rest : List Symbol}

/-! ## Digits -/

theorem spanDigits_of_closes (hr : Closes rest) : spanDigits rest = ([], rest) := by
  cases rest with
  | nil => rfl
  | cons x rest => obtain rfl | rfl | rfl := hr x rfl <;> rfl

theorem spanDigits_append {ds : List Char} (hd : ∀ c ∈ ds, c.isDigit = true) (hr : Closes rest) :
    spanDigits (ds.map some ++ rest) = (ds, rest) := by
  induction ds with
  | nil => exact spanDigits_of_closes hr
  | cons c ds ih =>
    have hds : spanDigits (ds.map some ++ rest) = (ds, rest) :=
      ih fun d h => hd d (List.mem_cons_of_mem c h)
    simp only [List.map_cons, List.cons_append, spanDigits, hd c List.mem_cons_self, if_true, hds]

theorem isDigit_of_mem {n : Nat} {c : Char} (hc : c ∈ Nat.toDigits 10 n) : c.isDigit = true :=
  Nat.isDigit_of_mem_toDigits (by omega) (by omega) hc

/-- The digits of a positive number start with another digit than zero. -/
theorem exists_toDigits_eq_cons {n : Nat} (hn : 0 < n) :
    ∃ c cs, Nat.toDigits 10 n = c :: cs ∧ c ≠ '0' := by
  induction n using Nat.strongRecOn with
  | _ n ih =>
    by_cases h : n < 10
    · refine ⟨n.digitChar, [], Nat.toDigits_of_lt_base h, ?_⟩
      simp [Nat.pos_iff_ne_zero.mp hn]
    · obtain ⟨c, cs, hcs, hc⟩ := ih (n / 10) (by omega) (by omega)
      refine ⟨c, cs ++ [(n % 10).digitChar], ?_, hc⟩
      rw [Nat.toDigits_of_base_le (by omega) (by omega), hcs, List.cons_append]

theorem ofDigits_toDigits (n : Nat) : Decimal.ofDigits 0 (Nat.toDigits 10 n) = n := by
  have h := Nat.ofDigitChars_toDigits (b := 10) (n := n) (by omega) (by omega)
  rw [Nat.ofDigitChars_eq_foldl] at h
  simpa only [Decimal.ofDigits, Decimal.digit, Nat.mul_comm] using h

/-! ## Integers -/

theorem whole?_toDigits (n : Nat) (hr : Closes rest) :
    whole? ((Nat.toDigits 10 n).map some ++ rest) = some (Nat.toDigits 10 n, rest) := by
  obtain rfl | hn := Nat.eq_zero_or_pos n
  · simp [whole?, spanDigits_of_closes hr]
  · -- it does not start with a zero, so all its digits are read
    have hspan := spanDigits_append (fun _ => isDigit_of_mem (n := n)) hr
    obtain ⟨c, cs, hcs, hc⟩ := exists_toDigits_eq_cons hn
    rw [hcs] at hspan ⊢
    have hdigits : whole? ((c :: cs).map some ++ rest) = digits? ((c :: cs).map some ++ rest) := by
      rw [whole?.eq_def]
      split
      · rename_i h
        exact absurd (Option.some.inj (List.cons.inj h).1) hc
      · rfl
    rw [hdigits, digits?, hspan]

theorem fraction?_of_closes (hr : Closes rest) : fraction? rest = some (none, rest) := by
  cases rest with
  | nil => rfl
  | cons x rest => obtain rfl | rfl | rfl := hr x rfl <;> rfl

theorem exponent?_of_closes (hr : Closes rest) : exponent? rest = some (none, rest) := by
  cases rest with
  | nil => rfl
  | cons x rest => obtain rfl | rfl | rfl := hr x rfl <;> rfl

theorem number?_of_minus (n : Nat) (hr : Closes rest) :
    number? (some '-' :: ((Nat.toDigits 10 n).map some ++ rest)) =
      some (ofWhole true (Nat.toDigits 10 n), rest) := by
  simp only [number?, whole?_toDigits n hr, fraction?_of_closes hr, exponent?_of_closes hr,
    Option.bind_eq_bind, Option.bind_some, Option.pure_def]

theorem number?_of_digits (n : Nat) (hr : Closes rest) :
    number? ((Nat.toDigits 10 n).map some ++ rest) =
      some (ofWhole false (Nat.toDigits 10 n), rest) := by
  have hw := whole?_toDigits n hr
  have hd := fun c => isDigit_of_mem (n := n) (c := c)
  cases hcs : Nat.toDigits 10 n with
  | nil => exact absurd hcs Nat.toDigits_ne_nil
  | cons c cs =>
    rw [hcs] at hw hd
    -- a digit is no sign
    have hc : c ≠ '-' := by
      rintro rfl
      exact absurd (hd '-' List.mem_cons_self) (by decide)
    rw [number?]
    · simp only [hw, fraction?_of_closes hr, exponent?_of_closes hr, Option.bind_eq_bind,
        Option.bind_some, Option.pure_def]
    · intro after h
      exact hc (Option.some.inj (List.cons.inj h).1)

/-- The digits of an integer of 64 bits, without a sign, name it. -/
theorem ofWhole_false {n : Nat} (hn : n < 18446744073709551616) :
    ofWhole false (Nat.toDigits 10 n) = .integer n := by
  have hd : decide (n < 18446744073709551616) = true := decide_eq_true hn
  simp only [ofWhole, ofDigits_toDigits, Bool.false_eq_true, if_false, hd, if_true]

theorem ofWhole_true {n : Nat} (hn : n ≠ 0) (hle : n ≤ 9223372036854775808) :
    ofWhole true (Nat.toDigits 10 n) = .integer (-n) := by
  have hd : (decide (n ≠ 0) && decide (n ≤ 9223372036854775808)) = true := by
    rw [decide_eq_true hn, decide_eq_true hle]
    rfl
  simp only [ofWhole, ofDigits_toDigits, if_true, hd]

/-- **Integers are read back.** -/
theorem number?_toString {n : Int} (hl : -9223372036854775808 ≤ n)
    (hg : n < 18446744073709551616) (hr : Closes rest) :
    number? ((toString n).toList.map some ++ rest) = some (.integer n, rest) := by
  cases n with
  | ofNat n =>
    have ht : (toString (Int.ofNat n)).toList = Nat.toDigits 10 n := Nat.toList_repr
    rw [ht, number?_of_digits n hr, ofWhole_false (Int.ofNat_lt.mp hg)]
    rfl
  | negSucc n =>
    have ht : (toString (Int.negSucc n)).toList = '-' :: Nat.toDigits 10 (n + 1) := by
      show ("-" ++ Nat.repr (n + 1)).toList = _
      rw [String.toList_append, Nat.toList_repr]
      rfl
    rw [ht, List.map_cons, List.cons_append, number?_of_minus (n + 1) hr,
      ofWhole_true (by omega) (by omega)]
    rfl

/-! ## Strings -/

/-- The piece that a character is read as when it was written: a control without an escape of its
own is named by its number. -/
def pieceOf (c : Char) : Piece :=
  if c.toNat < 0x20 && !(['\x08', '\x0c', '\n', '\r', '\t'].contains c) then .unit c.toNat
  else .char c

/-- The digits that name a control name its number. -/
theorem hex?_control {n : Nat} (hn : n < 0x20) :
    hex? ['0', '0', Nat.digitChar (n / 16), Nat.digitChar (n % 16)] = some n := by
  have h : ∀ n < 0x20,
      hex? ['0', '0', Nat.digitChar (n / 16), Nat.digitChar (n % 16)] = some n := by decide
  exact h n hn

/-- A letter after a backslash is read as the character that it stands for. -/
theorem pieces?_escaped {e c : Char} (he : escaped? e = some c) (hu : e ≠ 'u') :
    pieces? (some '\\' :: some e :: rest) =
      (pieces? rest).map fun (ps, rest) => (.char c :: ps, rest) := by
  rw [pieces?]
  · rw [he]
    cases pieces? rest <;> rfl
  · intro _ _ _ _ _ _ h
    exact hu h

theorem pieces?_escape (c : Char) :
    pieces? ((escape c).map some ++ rest) =
      (pieces? rest).map fun (ps, rest) => (pieceOf c :: ps, rest) := by
  unfold escape
  split
  -- seven characters have escapes of their own
  iterate 7 exact pieces?_escaped rfl (by decide)
  · rename_i hq hb h8 hf hn hr ht
    by_cases hc : c.toNat < 0x20
    · -- another control is named by its four digits
      have hp : pieceOf c = .unit c.toNat := by
        simpa [pieceOf, hc] using ⟨h8, hf, hn, hr, ht⟩
      have hx := hex?_control hc
      rw [if_pos hc, hp]
      simp only [List.map_cons, List.map_nil, List.cons_append, List.nil_append, pieces?, hx]
      cases pieces? rest <;> rfl
    · -- anything else stands for itself
      have hp : pieceOf c = .char c := by
        simp [pieceOf, hc]
      rw [if_neg hc, hp]
      show pieces? (some c :: rest) = _
      rw [pieces?]
      · have hg : (decide (0x20 ≤ c.toNat) && c != '\\') = true := by
          simpa using ⟨Nat.le_of_not_lt hc, hb⟩
        rw [hg]
        cases pieces? rest <;> rfl
      · exact hq
      · intro _ _ _ _ _ _ h
        exact hb h
      · intro _ _ _ h
        exact hb h

/-- A unit that is no half of a pair names a character. -/
theorem assemble_unit {n : Nat} (hh : isHigh n = false) (hl : isLow n = false) (ps : List Piece) :
    assemble (.unit n :: ps) = (Char.ofNat n :: ·) <$> assemble ps := by
  rw [assemble.eq_def]
  simp only [hh, hl, Bool.false_eq_true, if_false]

theorem assemble_pieceOf (c : Char) (ps : List Piece) :
    assemble (pieceOf c :: ps) = (assemble ps).map (c :: ·) := by
  unfold pieceOf
  split
  · rename_i h
    -- controls lie far below the halves of pairs
    have hc : c.toNat < 0x20 := of_decide_eq_true (Bool.and_eq_true_iff.mp h).1
    have hh : isHigh c.toNat = false := by
      rw [isHigh, decide_eq_false (by omega), Bool.false_and]
    have hl : isLow c.toNat = false := by
      rw [isLow, decide_eq_false (by omega), Bool.false_and]
    rw [assemble_unit hh hl, Char.ofNat_toNat]
    rfl
  · rfl

theorem pieces?_flatMap_escape (cs : List Char) :
    pieces? ((cs.flatMap escape).map some ++ some '"' :: rest) = some (cs.map pieceOf, rest) := by
  induction cs with
  | nil => simp [pieces?]
  | cons c cs ih => simp [List.map_append, List.append_assoc, pieces?_escape, ih]

theorem assemble_map_pieceOf (cs : List Char) : assemble (cs.map pieceOf) = some cs := by
  induction cs with
  | nil => rfl
  | cons c cs ih => rw [List.map_cons, assemble_pieceOf, ih]; rfl

/-- **Strings are read back**, after their opening quote. -/
theorem string?_quote (s : String) :
    string? ((quote s).tail.map some ++ rest) = some (some s, rest) := by
  have hq : (quote s).tail.map some ++ rest =
      (s.toList.flatMap escape).map some ++ some '"' :: rest := by
    simp [quote]
  rw [hq, string?, pieces?_flatMap_escape]
  simp [assemble_map_pieceOf]

end Literal

end Fallible.Json
