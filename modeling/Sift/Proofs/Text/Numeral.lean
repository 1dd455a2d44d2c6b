/-
**Whole numbers are read back from their digits.**

* `Text.ofDigitChars_padded` — zeros in front do not change a number.
* `Text.length_padded` — a number that fits a width is written in exactly that width.
* `Text.parseInt64?_intText` — a number of 64 bits is read back from its text.
-/

import Mathlib.Algebra.Group.Nat.Defs
import Sift.Text.Blank
import Sift.Text.Numeral

namespace Sift.Text

theorem natChars_ne_nil (n : Nat) : natChars n ≠ [] := Nat.toDigits_ne_nil

theorem isDigit_of_mem_natChars {n : Nat} {c : Char} (member : c ∈ natChars n) :
    c.isDigit = true :=
  Nat.isDigit_of_mem_toDigits (by decide) (by decide) member

/-- The digits of a number start with one. -/
theorem exists_natChars (n : Nat) : ∃ c tail, natChars n = c :: tail ∧ c.isDigit = true := by
  obtain ⟨c, tail, start⟩ := List.exists_cons_of_ne_nil (natChars_ne_nil n)
  exact ⟨c, tail, start, isDigit_of_mem_natChars (start ▸ List.mem_cons_self)⟩

theorem ofDigitChars_natChars (n : Nat) : Nat.ofDigitChars 10 (natChars n) 0 = n :=
  Nat.ofDigitChars_ten_toDigits

/-- A positive number is not written with a zero in front. -/
theorem head?_natChars_append {n : Nat} (positive : 0 < n) (rest : List Char) :
    (natChars n ++ rest).head?.any (· == '0') = false := by
  induction n using Nat.strongRecOn generalizing rest with
  | ind n ih =>
    by_cases short : n < 10
    · have nonzero : ∀ n < 10, 0 < n → (Nat.digitChar n == '0') = false := by decide
      have digit : natChars n = [Nat.digitChar n] := Nat.toDigits_of_lt_base short
      rw [digit]
      exact nonzero n short positive
    · have longer : natChars n = natChars (n / 10) ++ [Nat.digitChar (n % 10)] :=
        Nat.toDigits_of_base_le (by decide) (Nat.le_of_not_lt short)
      rw [longer, List.append_assoc]
      exact ih (n / 10) (by omega) (by omega) _

theorem isDigit_of_mem_padded {width n : Nat} {c : Char} (member : c ∈ padded width n) :
    c.isDigit = true := by
  rcases List.mem_append.mp member with zero | digit
  · rw [List.eq_of_mem_replicate zero]
    rfl
  · exact isDigit_of_mem_natChars digit

/-- Zeros in front do not change a number. -/
theorem ofDigitChars_padded (width n : Nat) : Nat.ofDigitChars 10 (padded width n) 0 = n := by
  rw [padded, Nat.ofDigitChars_append, Nat.ofDigitChars_replicate_zero, Nat.mul_zero,
    ofDigitChars_natChars]

theorem padded_ne_nil (width n : Nat) : padded width n ≠ [] := by
  simp [padded, natChars_ne_nil]

theorem le_length_padded (width n : Nat) : width ≤ (padded width n).length := by
  simp only [padded, List.length_append, List.length_replicate]
  omega

/-- A number that fits a width is written in exactly that width. -/
theorem length_padded {width n : Nat} (positive : 0 < width) (fits : n < 10 ^ width) :
    (padded width n).length = width := by
  have short : (natChars n).length ≤ width :=
    (Nat.length_toDigits_le_iff (by decide) positive).mpr fits
  simp only [padded, List.length_append, List.length_replicate]
  omega

/-- Digits are no blanks. -/
theorem isBlank_of_isDigit {c : Char} (digit : c.isDigit = true) : isBlank c = false := by
  have range := Char.isDigit_iff_toNat.mp digit
  have least : '0'.toNat = 48 := rfl
  have most : '9'.toNat = 57 := rfl
  simp only [isBlank, Bool.or_eq_false_iff, Bool.and_eq_false_iff, decide_eq_false_iff_not,
    beq_eq_false_iff_ne]
  omega

/-- A digit is no sign. -/
theorem splitSign_of_isDigit {c : Char} (rest : List Char) (digit : c.isDigit = true) :
    splitSign (c :: rest) = (false, c :: rest) := by
  unfold splitSign
  split
  · rename_i same
    cases same
    cases digit
  · rename_i same
    cases same
    cases digit
  · rfl

theorem splitSign_signed (negative : Bool) {digits : List Char}
    (all : ∀ c ∈ digits, c.isDigit = true) :
    splitSign ((if negative then ['-'] else []) ++ digits) = (negative, digits) := by
  cases negative with
  | true => rfl
  | false =>
    cases digits with
    | nil => rfl
    | cons c rest => exact splitSign_of_isDigit rest (all c List.mem_cons_self)

/-- A number is its magnitude with its sign. -/
theorem signed_natAbs (n : Int) :
    (if decide (n < 0) = true then -(n.natAbs : Int) else n.natAbs) = n := by
  by_cases negative : n < 0
  · rw [decide_eq_true negative, if_pos rfl]
    omega
  · rw [decide_eq_false negative, if_neg Bool.false_ne_true]
    omega

/-- **A number of 64 bits is read back from its text.** -/
theorem parseInt64?_intText (n : Int64) : parseInt64? (intText n.toInt) = some n := by
  have split : splitSign (intText n.toInt).toList
      = (decide (n.toInt < 0), natChars n.toInt.natAbs) := by
    rw [intText, String.toList_ofList, intChars]
    simpa using splitSign_signed (decide (n.toInt < 0)) fun c => isDigit_of_mem_natChars
  have digits : (natChars n.toInt.natAbs).all Char.isDigit = true :=
    List.all_eq_true.mpr fun c => isDigit_of_mem_natChars
  have inRange : Int64.minValue.toInt ≤ n.toInt ∧ n.toInt ≤ Int64.maxValue.toInt :=
    ⟨n.minValue_le_toInt, n.toInt_le⟩
  simp only [parseInt64?, split, digits, ofDigitChars_natChars, signed_natAbs]
  rw [if_neg (by simp [natChars_ne_nil]), if_pos (by simpa using inRange), Int64.ofInt_toInt]

end Sift.Text
