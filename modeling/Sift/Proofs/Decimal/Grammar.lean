/-
**Which texts are decimals.**

A numeral is what a decimal looks like: digits, with a sign in front of them or none, and with a
point among them or none. Blanks may stand around it. A numeral is read as the number that its
digits spell if no more of them follow the point than may, and if the number has a place among the
mantissas.

* `Numeral`, `Numeral.chars`, `Numeral.SpelledBy` — numerals, how they are written, and the texts that
  hold one among blanks.
* `Decimal.parse?_of_spelledBy` — what is read from a text that holds a numeral.
* `Decimal.exists_spelledBy` — nothing is read from any other text.
* `Decimal.parse?_grammar` — the texts that are read, what is read from them, and that the written form
  of what is read is read as the same.
-/

import Sift.Proofs.Decimal.Text

namespace Sift

namespace Text

theorem trimStart_append {before rest : List Char} (blank : ∀ c ∈ before, isBlank c = true)
    (nonempty : rest ≠ []) (solid : isBlank (rest.head nonempty) = false) :
    trimStart (before ++ rest) = rest := by
  rw [trimStart, List.dropWhile_append_of_pos blank]
  cases rest with
  | nil => exact absurd rfl nonempty
  | cons c rest => exact List.dropWhile_cons_of_neg (by simpa using solid)

/-- Blanks around a text without blanks are trimmed. -/
theorem trim_append {before body after : List Char}
    (blank : ∀ c ∈ before ++ after, isBlank c = true) (nonempty : body ≠ [])
    (solid : ∀ c ∈ body, isBlank c = false) : trim (before ++ body ++ after) = body := by
  have front : trimStart (before ++ (body ++ after)) = body ++ after := by
    refine trimStart_append (fun c member => blank c (List.mem_append_left _ member))
      (List.append_ne_nil_of_left_ne_nil nonempty _) ?_
    rw [List.head_append_of_ne_nil nonempty]
    exact solid _ (List.head_mem nonempty)
  have back : trimStart (after.reverse ++ body.reverse) = body.reverse := by
    refine trimStart_append (fun c member => ?_) (mt List.reverse_eq_nil_iff.mp nonempty) ?_
    · exact blank c (List.mem_append_right _ (List.mem_reverse.mp member))
    · exact solid _ (List.mem_reverse.mp (List.head_mem _))
  rw [trim, List.append_assoc, front, List.reverse_append, back, List.reverse_reverse]

/-- Trimming takes nothing but blanks. -/
theorem exists_trim (text : List Char) : ∃ before after : List Char,
    (∀ c ∈ before ++ after, isBlank c = true) ∧ text = before ++ trim text ++ after := by
  refine ⟨text.takeWhile isBlank, ((trimStart text).reverse.takeWhile isBlank).reverse, ?_, ?_⟩
  · have taken (l : List Char) : ∀ c ∈ l.takeWhile isBlank, isBlank c = true :=
      List.all_eq_true.mp List.all_takeWhile
    simp only [List.mem_append, List.mem_reverse]
    rintro c (front | back)
    · exact taken text c front
    · exact taken _ c back
  · have back : trim text ++ ((trimStart text).reverse.takeWhile isBlank).reverse = trimStart text := by
      rw [trim, ← List.reverse_append]
      exact List.reverse_eq_iff.mpr List.takeWhile_append_dropWhile
    rw [List.append_assoc, back]
    exact List.takeWhile_append_dropWhile.symm

/-- Splitting at a point takes nothing but the point, if there is one. -/
theorem exists_splitPoint (text : List Char) : ∃ afterPoint : Option (List Char),
    text = (splitPoint text).1 ++ (afterPoint.map fun rest => '.' :: rest).getD [] ∧
      afterPoint.getD [] = (splitPoint text).2 := by
  have whole : text = text.takeWhile (· != '.') ++ text.dropWhile (· != '.') :=
    List.takeWhile_append_dropWhile.symm
  simp only [splitPoint]
  cases rest : text.dropWhile (· != '.') with
  | nil =>
    rw [rest] at whole
    exact ⟨none, whole, rfl⟩
  | cons c rest' =>
    have point : c = '.' := by
      have stopped := List.head?_dropWhile_not (· != '.') text
      simpa [rest] using stopped
    rw [rest, point] at whole
    exact ⟨some rest', whole, rfl⟩

end Text

/-- The sign that a numeral is written with. -/
inductive Sign where
  | plus
  | minus
  deriving DecidableEq

namespace Sign

def char : Sign → Char
  | plus => '+'
  | minus => '-'

/-- Splitting off a sign takes nothing but the sign, if there is one. -/
theorem exists_splitSign (text : List Char) : ∃ sign : Option Sign,
    text = (sign.map char).toList ++ (Text.splitSign text).2 := by
  unfold Text.splitSign
  split
  · exact ⟨some .minus, rfl⟩
  · exact ⟨some .plus, rfl⟩
  · exact ⟨none, rfl⟩

end Sign

/-- A written decimal: digits before a point and after it, at least one in all. -/
structure Numeral where
  sign : Option Sign
  whole : List Char
  /-- The digits after the point, if there is a point. -/
  afterPoint : Option (List Char)
  digits : ∀ c ∈ whole ++ afterPoint.getD [], c.isDigit = true
  nonempty : whole ++ afterPoint.getD [] ≠ []

namespace Numeral

variable (numeral : Numeral)

def fraction : List Char :=
  numeral.afterPoint.getD []

/-- The number that the digits spell, read as one run. -/
def magnitude : Nat :=
  Nat.ofDigitChars 10 (numeral.whole ++ numeral.fraction) 0

/-- The number with its sign. -/
def mantissa : Int :=
  if numeral.sign = some .minus then -(numeral.magnitude : Int) else numeral.magnitude

/-- What is written behind the sign. -/
def unsigned : List Char :=
  numeral.whole ++ (numeral.afterPoint.map fun digits => '.' :: digits).getD []

/-- A numeral as it is written. -/
def chars : List Char :=
  (numeral.sign.map Sign.char).toList ++ numeral.unsigned

/-- Whether a text holds a numeral and nothing but blanks around it. -/
def SpelledBy (text : String) : Prop :=
  ∃ before after : List Char, (∀ c ∈ before ++ after, Text.isBlank c = true) ∧
    text.toList = before ++ numeral.chars ++ after

/-- Whether the numeral has a decimal: few enough digits after the point, and a number that has a place
among the mantissas. -/
def InRange : Prop :=
  numeral.fraction.length ≤ Decimal.maxScale ∧ numeral.magnitude < Decimal.limit

theorem isDigit_of_mem_whole {numeral : Numeral} {c : Char} (member : c ∈ numeral.whole) :
    c.isDigit = true :=
  numeral.digits c (List.mem_append_left _ member)

theorem isDigit_of_mem_fraction {numeral : Numeral} {c : Char} (member : c ∈ numeral.fraction) :
    c.isDigit = true :=
  numeral.digits c (List.mem_append_right _ member)

/-- What stands behind the sign are digits and points. -/
theorem of_mem_unsigned {numeral : Numeral} {c : Char} (member : c ∈ numeral.unsigned) :
    c.isDigit = true ∨ c = '.' := by
  rcases List.mem_append.mp member with whole | pointed
  · exact .inl (isDigit_of_mem_whole whole)
  · cases after : numeral.afterPoint with
    | none => simp [after] at pointed
    | some digits =>
      rw [after] at pointed
      rcases List.mem_cons.mp pointed with point | digit
      · exact .inr point
      · have inFraction : c ∈ numeral.fraction := by simpa [fraction, after] using digit
        exact .inl (isDigit_of_mem_fraction inFraction)

theorem unsigned_ne_nil : numeral.unsigned ≠ [] := by
  have nonempty := numeral.nonempty
  cases after : numeral.afterPoint <;> simp_all [unsigned]

/-- No blank stands in a numeral. -/
theorem isBlank_of_mem_chars {numeral : Numeral} {c : Char} (member : c ∈ numeral.chars) :
    Text.isBlank c = false := by
  rcases List.mem_append.mp member with sign | unsigned
  · cases given : numeral.sign with
    | none => simp [given] at sign
    | some sign' =>
      rw [given] at sign
      cases List.mem_singleton.mp sign
      cases sign' <;> decide
  · rcases of_mem_unsigned unsigned with digit | rfl
    · exact Text.isBlank_of_isDigit digit
    · decide

theorem chars_ne_nil : numeral.chars ≠ [] :=
  List.append_ne_nil_of_right_ne_nil _ numeral.unsigned_ne_nil

/-- The sign is split off a numeral. -/
theorem splitSign_chars :
    Text.splitSign numeral.chars = (decide (numeral.sign = some .minus), numeral.unsigned) := by
  cases given : numeral.sign with
  | some sign => cases sign <;> simp [chars, given, Sign.char, Text.splitSign]
  | none =>
    have only : numeral.chars = numeral.unsigned := by simp [chars, given]
    rw [only]
    cases start : numeral.unsigned with
    | nil => exact absurd start numeral.unsigned_ne_nil
    | cons c rest =>
      have first : c ∈ numeral.unsigned := by simp [start]
      rcases of_mem_unsigned first with digit | rfl
      · exact Text.splitSign_of_isDigit rest digit
      · rfl

/-- The two runs of digits are found on either side of the point. -/
theorem splitPoint_unsigned :
    Text.splitPoint numeral.unsigned = (numeral.whole, numeral.fraction) := by
  have digits : ∀ c ∈ numeral.whole, c ≠ '.' := by
    rintro c member rfl
    exact absurd (isDigit_of_mem_whole member) (by decide)
  cases after : numeral.afterPoint with
  | none => simpa [unsigned, fraction, after] using Text.splitPoint_of_digits digits
  | some fraction' => simpa [unsigned, fraction, after] using Text.splitPoint_append digits

theorem mantissa_natAbs : numeral.mantissa.natAbs = numeral.magnitude := by
  unfold mantissa
  split <;> omega

/-- The decimal of a numeral. -/
def decimal (fits : numeral.InRange) : Decimal where
  mantissa := numeral.mantissa
  scale := numeral.fraction.length
  least := by
    have := numeral.mantissa_natAbs
    have := fits.2
    omega
  most := by
    have := numeral.mantissa_natAbs
    have := fits.2
    omega

instance : Decidable numeral.InRange :=
  inferInstanceAs (Decidable (_ ∧ _))

end Numeral

namespace Decimal

/-- A text that holds a numeral is read as the decimal of the numeral, if it has one. -/
theorem parse?_of_spelledBy {numeral : Numeral} {text : String} (spelled : numeral.SpelledBy text) :
    parse? text = if fits : numeral.InRange then some (numeral.decimal fits) else none := by
  obtain ⟨before, after, blank, same⟩ := spelled
  have trimmed : Text.trim text.toList = numeral.chars := by
    rw [same]
    exact Text.trim_append blank numeral.chars_ne_nil fun c => Numeral.isBlank_of_mem_chars
  have digits : (numeral.whole ++ numeral.fraction).all Char.isDigit = true :=
    List.all_eq_true.mpr numeral.digits
  have nonempty : (numeral.whole ++ numeral.fraction).isEmpty = false :=
    List.isEmpty_eq_false_iff.mpr numeral.nonempty
  have magnitude : Nat.ofDigitChars 10 (numeral.whole ++ numeral.fraction) 0 = numeral.magnitude :=
    rfl
  simp only [parse?, trimmed, numeral.splitSign_chars, numeral.splitPoint_unsigned, digits, nonempty,
    magnitude, Bool.not_true, Bool.false_or, decide_eq_true_eq]
  by_cases fits : numeral.InRange
  · rw [dif_pos fits, if_neg (Nat.not_lt.mpr fits.1), if_pos fits.2]
    exact dif_pos ⟨(numeral.decimal fits).least, (numeral.decimal fits).most⟩
  · rw [dif_neg fits]
    split
    · rfl
    · rename_i short
      exact if_neg fun small => fits ⟨Nat.not_lt.mp short, small⟩

/-- Nothing is read from a text that does not hold a numeral. -/
theorem exists_spelledBy {text : String} {d : Decimal} (read : parse? text = some d) :
    ∃ numeral : Numeral, numeral.SpelledBy text := by
  obtain ⟨before, after, blank, trimmed⟩ := Text.exists_trim text.toList
  obtain ⟨sign, signed⟩ := Sign.exists_splitSign (Text.trim text.toList)
  obtain ⟨afterPoint, pointed, fraction⟩ :=
    Text.exists_splitPoint (Text.splitSign (Text.trim text.toList)).2
  simp only [parse?] at read
  split at read
  case isTrue => cases read
  case isFalse valid =>
    simp only [Bool.or_eq_true, Bool.not_eq_true', not_or, Bool.not_eq_true, Bool.not_eq_false,
      ← fraction] at valid
    obtain ⟨⟨nonempty, digits⟩, -⟩ := valid
    rw [signed, pointed] at trimmed
    exact ⟨⟨sign, _, afterPoint, List.all_eq_true.mp digits, List.isEmpty_eq_false_iff.mp nonempty⟩,
      before, after, blank, trimmed⟩

/-- A decimal is read from a text exactly if the text holds a numeral of this decimal. -/
theorem parse?_eq_some_iff {text : String} {d : Decimal} :
    parse? text = some d ↔
      ∃ (numeral : Numeral) (fits : numeral.InRange),
        numeral.SpelledBy text ∧ numeral.decimal fits = d := by
  constructor
  · intro read
    obtain ⟨numeral, spelled⟩ := exists_spelledBy read
    rw [parse?_of_spelledBy spelled] at read
    split at read
    case isTrue fits => exact ⟨numeral, fits, spelled, Option.some.inj read⟩
    case isFalse => cases read
  · rintro ⟨numeral, fits, spelled, rfl⟩
    rw [parse?_of_spelledBy spelled, dif_pos fits]

theorem isReadable_iff {d : Decimal} :
    d.isReadable = true ↔ d.scale ≤ maxScale ∧ -limit < d.mantissa := by
  simp [isReadable]

/-- The decimals that are read are those that can be read back. -/
theorem isReadable_of_parse? {text : String} {d : Decimal} (read : parse? text = some d) :
    d.isReadable = true := by
  obtain ⟨numeral, fits, -, rfl⟩ := parse?_eq_some_iff.mp read
  have magnitude := numeral.mantissa_natAbs
  have small := fits.2
  refine isReadable_iff.mpr ⟨fits.1, ?_⟩
  show -(limit : Int) < numeral.mantissa
  omega

theorem parse?_text_of_isReadable {d : Decimal} (readable : d.isReadable = true) :
    parse? d.text = some d := by
  rw [parse?_text, if_pos readable]

/-- **The texts that are decimals are those that hold a numeral in range.** The decimal has the number
of the numeral for its mantissa and counts the digits after the point, and what can be read at all is
read back from its written form. -/
theorem parse?_grammar :
    (∀ text mantissa scale,
      (∃ d, parse? text = some d ∧ d.mantissa = mantissa ∧ d.scale = scale) ↔
        ∃ numeral : Numeral, numeral.SpelledBy text ∧ numeral.InRange ∧
          numeral.mantissa = mantissa ∧ numeral.fraction.length = scale) ∧
    ∀ d : Decimal,
      ((∃ text, parse? text = some d) ↔ d.scale ≤ maxScale ∧ -limit < d.mantissa) ∧
      ((∃ text, parse? text = some d) ↔ parse? d.text = some d) := by
  refine ⟨fun text mantissa scale => ⟨?_, ?_⟩, fun d => ⟨⟨?_, ?_⟩, ?_, fun back => ⟨_, back⟩⟩⟩
  · rintro ⟨d, read, rfl, rfl⟩
    obtain ⟨numeral, fits, spelled, rfl⟩ := parse?_eq_some_iff.mp read
    exact ⟨numeral, spelled, fits, rfl, rfl⟩
  · rintro ⟨numeral, spelled, fits, rfl, rfl⟩
    exact ⟨numeral.decimal fits, parse?_eq_some_iff.mpr ⟨numeral, fits, spelled, rfl⟩, rfl, rfl⟩
  · rintro ⟨text, read⟩
    exact isReadable_iff.mp (isReadable_of_parse? read)
  · intro range
    exact ⟨d.text, parse?_text_of_isReadable (isReadable_iff.mpr range)⟩
  · rintro ⟨text, read⟩
    exact parse?_text_of_isReadable (isReadable_of_parse? read)

end Decimal

end Sift
