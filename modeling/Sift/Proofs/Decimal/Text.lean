/-
**Decimals are read back from their written form.**

`Decimal.parse?_text`: a decimal is read back, mantissa and scale alike, exactly where no more digits
follow its point than may be read, and where its mantissa is not the least of all, whose magnitude
has no place among the mantissas.
-/

import Sift.Decimal
import Sift.Proofs.Text.Scan

namespace Sift

namespace Text

/-- A text without blanks has none to be trimmed. -/
theorem trim_of_not_blank {text : List Char} (solid : ∀ c ∈ text, isBlank c = false) :
    trim text = text := by
  have start : ∀ text : List Char, (∀ c ∈ text, isBlank c = false) → trimStart text = text := by
    intro text solid
    cases text with
    | nil => rfl
    | cons c rest => simp [trimStart, solid c List.mem_cons_self]
  rw [trim, start text solid, start text.reverse (by simpa using solid), List.reverse_reverse]

/-- The first point stands between what has none and the rest. -/
theorem splitPoint_append {whole fraction : List Char} (digits : ∀ c ∈ whole, c ≠ '.') :
    splitPoint (whole ++ '.' :: fraction) = (whole, fraction) := by
  have passes : ∀ c ∈ whole, (c != '.') = true := by simpa using digits
  rw [splitPoint, List.takeWhile_append_of_pos passes, List.dropWhile_append_of_pos passes]
  simp

/-- Without a point all of a text stands before it. -/
theorem splitPoint_of_digits {whole : List Char} (digits : ∀ c ∈ whole, c ≠ '.') :
    splitPoint whole = (whole, []) := by
  have passes : ∀ c ∈ whole, (c != '.') = true := by simpa using digits
  have taken := Scan.takeWhile_append_of_stop passes (rfl : ([] : List Char).head?.any _ = false)
  have dropped : (whole ++ []).dropWhile (· != '.') = [] := List.dropWhile_append_of_pos passes
  rw [List.append_nil] at taken dropped
  rw [splitPoint, taken, dropped]
  rfl

end Text

namespace Decimal

/-- Whether a decimal can be read back from its written form. -/
def isReadable (d : Decimal) : Bool :=
  d.scale ≤ maxScale && -limit < d.mantissa

/-- The digits before the point. -/
def wholeDigits (d : Decimal) : List Char :=
  d.paddedDigits.take (d.paddedDigits.length - d.scale)

/-- The digits after the point. -/
def fractionDigits (d : Decimal) : List Char :=
  d.paddedDigits.drop (d.paddedDigits.length - d.scale)

theorem wholeDigits_append (d : Decimal) :
    d.wholeDigits ++ d.fractionDigits = d.paddedDigits :=
  List.take_append_drop _ _

theorem length_fractionDigits (d : Decimal) : d.fractionDigits.length = d.scale := by
  have enough := Text.le_length_padded (d.scale + 1) d.mantissa.natAbs
  rw [fractionDigits, List.length_drop]
  show (Text.padded _ _).length - ((Text.padded _ _).length - d.scale) = d.scale
  omega

/-- At least one digit stands before the point. -/
theorem wholeDigits_ne_nil (d : Decimal) : d.wholeDigits ≠ [] := by
  have enough := Text.le_length_padded (d.scale + 1) d.mantissa.natAbs
  have digits : d.paddedDigits ≠ [] := Text.padded_ne_nil _ _
  have front : d.paddedDigits.length - d.scale ≠ 0 := by
    show (Text.padded _ _).length - d.scale ≠ 0
    omega
  simp [wholeDigits, digits, front]

theorem isDigit_of_mem_wholeDigits {d : Decimal} {c : Char} (member : c ∈ d.wholeDigits) :
    c.isDigit = true :=
  Text.isDigit_of_mem_padded (List.mem_of_mem_take member)

theorem isDigit_of_mem_fractionDigits {d : Decimal} {c : Char} (member : c ∈ d.fractionDigits) :
    c.isDigit = true :=
  Text.isDigit_of_mem_padded (List.mem_of_mem_drop member)

/-- What follows the digits before the point. -/
def pointed (d : Decimal) : List Char :=
  if d.scale = 0 then [] else '.' :: d.fractionDigits

theorem toList_text (d : Decimal) :
    d.text.toList = (if d.mantissa < 0 then ['-'] else []) ++ (d.wholeDigits ++ d.pointed) := by
  rw [text, String.toList_ofList, List.append_assoc]
  rfl

/-- The two runs of digits are found on either side of the point. -/
theorem splitPoint_text (d : Decimal) :
    Text.splitPoint (d.wholeDigits ++ d.pointed) = (d.wholeDigits, d.fractionDigits) := by
  have digits : ∀ c ∈ d.wholeDigits, c ≠ '.' := by
    rintro c member rfl
    exact absurd (isDigit_of_mem_wholeDigits member) (by decide)
  unfold pointed
  split
  · rename_i zero
    have none : d.fractionDigits = [] := by
      rw [← List.length_eq_zero_iff, length_fractionDigits, zero]
    rw [List.append_nil, Text.splitPoint_of_digits digits, none]
  · exact Text.splitPoint_append digits

/-- The written form has no blanks. -/
theorem isBlank_of_mem_text {d : Decimal} {c : Char} (member : c ∈ d.text.toList) :
    Text.isBlank c = false := by
  rw [toList_text, pointed] at member
  rcases List.mem_append.mp member with sign | digits
  · split at sign
    · rw [List.mem_singleton.mp sign]
      decide
    · cases sign
  · rcases List.mem_append.mp digits with whole | fraction
    · exact Text.isBlank_of_isDigit (isDigit_of_mem_wholeDigits whole)
    · split at fraction
      · cases fraction
      · rcases List.mem_cons.mp fraction with rfl | fraction
        · decide
        · exact Text.isBlank_of_isDigit (isDigit_of_mem_fractionDigits fraction)

/-- The sign is split off the written form. -/
theorem splitSign_text (d : Decimal) :
    Text.splitSign d.text.toList = (decide (d.mantissa < 0), d.wholeDigits ++ d.pointed) := by
  rw [toList_text]
  by_cases negative : d.mantissa < 0
  · simp [negative, Text.splitSign]
  · have digits : ∀ c ∈ d.wholeDigits, c.isDigit = true := fun c => isDigit_of_mem_wholeDigits
    simp only [negative, if_false, decide_false, List.nil_append]
    cases whole : d.wholeDigits with
    | nil => exact absurd whole d.wholeDigits_ne_nil
    | cons c rest =>
      rw [whole] at digits
      exact Text.splitSign_of_isDigit _ (digits c List.mem_cons_self)

/-- **A decimal is read back from its written form exactly where it is readable.** -/
theorem parse?_text (d : Decimal) : parse? d.text = if d.isReadable then some d else none := by
  have digits : d.paddedDigits ≠ [] := Text.padded_ne_nil _ _
  have all : d.paddedDigits.all Char.isDigit = true :=
    List.all_eq_true.mpr fun c => Text.isDigit_of_mem_padded
  have magnitude : Nat.ofDigitChars 10 d.paddedDigits 0 = d.mantissa.natAbs :=
    Text.ofDigitChars_padded _ _
  have made : make? d.mantissa d.scale = some d := dif_pos ⟨d.least, d.most⟩
  have inRange : d.mantissa.natAbs < limit ↔ -limit < d.mantissa := by
    have := d.least
    have := d.most
    omega
  simp only [parse?, Text.trim_of_not_blank fun c => isBlank_of_mem_text, splitSign_text,
    splitPoint_text, wholeDigits_append, length_fractionDigits, magnitude, all,
    Text.signed_natAbs, made, inRange]
  by_cases short : d.scale ≤ maxScale
  · simp [isReadable, digits, short, Nat.not_lt.mpr short]
  · simp [isReadable, short]

end Decimal

end Sift
