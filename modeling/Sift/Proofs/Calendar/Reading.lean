/-
**Days and moments are read back from their written form.**

* `Date.parse?_text` — every day is read back, in whatever year.
* `Timestamp.parse?_text` — an instant written at offset zero is read back where its year has four
  digits; a longer year and a negative one carry a sign, which the strict grammar does not have.
-/

import Sift.Calendar.Reader
import Sift.Calendar.Writer
import Sift.Proofs.Text.Scan

namespace Sift

open Text (padded)
open Text.Scan

variable {rest : List Char}

/-! ### Days -/

theorem daysInMonth_le (year : Int) (month : Nat) : daysInMonth year month ≤ 31 := by
  unfold daysInMonth
  split
  · split <;> decide
  all_goals decide

namespace Date

theorem month_lt (d : Date) : d.month < 100 := by
  have valid := d.valid
  simp only [isDay, Bool.and_eq_true, decide_eq_true_eq] at valid
  omega

theorem day_lt (d : Date) : d.day < 100 := by
  have valid := d.valid
  have days := daysInMonth_le d.year d.month
  simp only [isDay, Bool.and_eq_true, decide_eq_true_eq] at valid
  omega

end Date

namespace Calendar

/-- A number of two digits is read back. -/
theorem shortNumber_padded {n : Nat} (fits : n < 100) :
    shortNumber (padded 2 n ++ rest) = some (n, rest) := by
  refine (bind_of_reads (skipWhile_of_stop ?_)).trans (number_padded (by decide) (by decide) fits)
  exact head?_padded_any (fun c => Text.isBlank_of_isDigit) 2 n

/-- **A year is read back** where a hyphen follows it, with a sign or without. -/
theorem year_yearChars (y : Int) :
    year (Date.yearChars y ++ '-' :: rest) = some (y, '-' :: rest) := by
  have stop : ('-' :: rest).head?.any Char.isDigit = false := rfl
  unfold Date.yearChars
  split
  · rename_i negative
    have magnitude : -(y.natAbs : Int) = y := by omega
    refine (bind_of_reads (skipWhile_of_stop rfl)).trans ?_
    refine (bind_of_reads (peek_eq _ _)).trans ?_
    refine (bind_of_reads (char_cons '-')).trans ?_
    refine (bind_of_reads (number_padded_of_stop (by decide) stop)).trans ?_
    rw [magnitude]
    rfl
  · split
    · rename_i positive long
      have magnitude : (y.natAbs : Int) = y := by omega
      refine (bind_of_reads (skipWhile_of_stop rfl)).trans ?_
      refine (bind_of_reads (peek_eq _ _)).trans ?_
      refine (bind_of_reads (peek_eq _ _)).trans ?_
      refine (bind_of_reads (char_cons '+')).trans ?_
      refine (bind_of_reads (number_padded_of_stop (by decide) stop)).trans ?_
      rw [magnitude]
      rfl
    · rename_i positive short
      have fits : y.natAbs < 10 ^ 4 := by omega
      have magnitude : (y.natAbs : Int) = y := by omega
      have unsigned : ∀ sign : Char, sign.isDigit = false →
          (padded 4 y.natAbs ++ '-' :: rest).head?.any (· == sign) = false := by
        intro sign other
        refine head?_padded_any (fun c digit => ?_) 4 _
        rw [beq_eq_false_iff_ne]
        rintro rfl
        rw [digit] at other
        cases other
      refine (bind_of_reads (skipWhile_of_stop ?_)).trans ?_
      · exact head?_padded_any (fun c => Text.isBlank_of_isDigit) 4 _
      refine (bind_of_reads (peek_eq _ _)).trans ?_
      rw [unsigned '-' rfl]
      refine (bind_of_reads (peek_eq _ _)).trans ?_
      rw [unsigned '+' rfl]
      refine (bind_of_reads (number_padded (by decide) (by decide) fits)).trans ?_
      rw [magnitude]
      rfl

theorem day_self (d : Date) : day d.year d.month d.day rest = some (d, rest) := by
  rw [day, d.make?_self]
  rfl

/-- A day is read back whatever follows it, with a scan between its parts that leaves a hyphen. -/
theorem looseDay_chars {between : Text.Scan Unit}
    (passes : ∀ rest, between ('-' :: rest) = some ((), '-' :: rest)) (d : Date) :
    looseDay between (d.chars ++ rest) = some (d, rest) := by
  have parts : d.chars ++ rest = Date.yearChars d.year ++
      '-' :: (padded 2 d.month ++ '-' :: (padded 2 d.day ++ rest)) := by simp [Date.chars]
  rw [parts]
  refine (bind_of_reads (year_yearChars d.year)).trans ?_
  refine (bind_of_reads (passes _)).trans ?_
  refine (bind_of_reads (char_cons '-')).trans ?_
  refine (bind_of_reads (shortNumber_padded d.month_lt)).trans ?_
  refine (bind_of_reads (passes _)).trans ?_
  refine (bind_of_reads (char_cons '-')).trans ?_
  refine (bind_of_reads (shortNumber_padded d.day_lt)).trans ?_
  exact day_self d

end Calendar

/-- **Every day is read back from its written form.** -/
theorem Date.parse?_text (d : Date) : Date.parse? d.text = some d := by
  have run : Calendar.looseDay (pure ()) (d.chars ++ []) = some (d, []) :=
    Calendar.looseDay_chars (fun rest => pure_eq () ('-' :: rest)) d
  rw [List.append_nil] at run
  rw [parse?, text, String.toList_ofList, whole?, run]

/-! ### Times of the day -/

namespace Calendar

/-- A time of the day from its parts. -/
theorem clock_self (c : Clock) :
    clock (c.minute / 60) (c.minute % 60) c.second c.nano rest = some (c, rest) := by
  rw [clock, c.make?_self]
  rfl

/-- A fraction of so many digits stands for as many nanoseconds as its first nine digits. -/
theorem fraction_padded {width n : Nat} (positive : 0 < width) (most : width ≤ 9)
    (fits : n < 10 ^ width) (stop : rest.head?.any Char.isDigit = false) :
    fraction ('.' :: padded width n ++ rest) = some (n * 10 ^ (9 - width), rest) := by
  have length := Text.length_padded positive fits
  refine (bind_of_reads (peek_eq _ _)).trans ?_
  refine (bind_of_reads (char_cons '.')).trans ?_
  refine (bind_of_reads (digits_append (fun c => Text.isDigit_of_mem_padded) ?_ ?_
    (.inr stop))).trans ?_
  · omega
  · simpa [length] using most
  refine (bind_of_reads (skipWhile_of_stop stop)).trans ?_
  rw [Text.ofDigitChars_padded, length]
  rfl

/-- **The fraction of a second is read back** from the three, six or nine digits written of it. -/
theorem fraction_fractionChars (nano : Fin 1000000000) (point : rest.head?.any (· == '.') = false)
    (stop : rest.head?.any Char.isDigit = false) :
    fraction (Clock.fractionChars nano ++ rest) = some (nano.val, rest) := by
  have small := nano.isLt
  unfold Clock.fractionChars
  split
  · rename_i zero
    refine (bind_of_reads (peek_eq _ _)).trans ?_
    rw [List.nil_append, point, zero]
    rfl
  · split
    · rename_i millis
      rw [fraction_padded (by decide) (by decide) (by omega) stop]
      congr 2
      omega
    · split
      · rename_i micros
        rw [fraction_padded (by decide) (by decide) (by omega) stop]
        congr 2
        omega
      · rw [fraction_padded (by decide) (by decide) (by omega) stop, Nat.sub_self, Nat.pow_zero,
          Nat.mul_one]

end Calendar

/-! ### Instants -/

namespace Timestamp

/-- A reading at offset zero is its own instant. -/
theorem ofLocal?_zero (t : DateTime) : ofLocal? t .zero = some (ofUtc t) := by
  have same : t.shift? (-Offset.zero.minutes) = some t := t.shift?_zero
  unfold ofLocal?
  split
  · rename_i utc agree
    obtain rfl : t = utc := Option.some.inj (same.symm.trans agree)
    rfl
  · rename_i failed
    rw [same] at failed
    cases failed

/-- Whether the year of an instant at offset zero is written with four digits and no sign. -/
def hasShortYear (t : Timestamp) : Bool :=
  0 ≤ t.utc.date.year && t.utc.date.year ≤ 9999

theorem text_toUtc (t : Timestamp) :
    t.toUtc.text true = String.ofList (t.utc.chars 'T' ++ ['Z']) := rfl

/-- The strict grammar has no sign before a year. -/
theorem yearChars_of_long {y : Int} (long : ¬ (0 ≤ y ∧ y ≤ 9999)) :
    (Date.yearChars y ++ rest).head?.any Char.isDigit = false := by
  unfold Date.yearChars
  split
  · rfl
  · rw [if_pos (by omega)]
    rfl

/-- **An instant is read back from its written form at offset zero exactly where its year has four
digits.** -/
theorem parse?_text (t : Timestamp) :
    parse? (t.toUtc.text true) = if t.hasShortYear then some t.toUtc else none := by
  obtain ⟨⟨date, clock⟩, utc⟩ : ∃ utc, t.utc = utc := ⟨_, rfl⟩
  have minute := clock.minute.isLt
  have second := clock.second.isLt
  have written : (t.toUtc.text true).toList = Date.yearChars date.year ++
      '-' :: (padded 2 date.month ++ '-' :: (padded 2 date.day ++ 'T' ::
        (padded 2 (clock.minute / 60) ++ ':' :: (padded 2 (clock.minute % 60) ++ ':' ::
          (padded 2 clock.second ++ (Clock.fractionChars clock.nano ++ ['Z'])))))) := by
    rw [text_toUtc, String.toList_ofList, utc]
    simp [DateTime.chars, Date.chars, Clock.chars]
  rw [parse?, written]
  split
  · rename_i short
    have short : 0 ≤ date.year ∧ date.year ≤ 9999 := by simpa [hasShortYear, utc] using short
    have fits : date.year.natAbs < 10 ^ 4 := by omega
    have year : (date.year.natAbs : Int) = date.year := by omega
    have unsigned : Date.yearChars date.year = padded 4 date.year.natAbs := by
      rw [Date.yearChars, if_neg (by omega), if_neg (by omega)]
    rw [unsigned]
    show Option.bind (whole? _ _) _ = _
    rw [whole?_of_reads (?_ : _ = some (((⟨date, clock⟩ : DateTime), Offset.zero), []))]
    · simp only [Option.bind_some, ofLocal?_zero, toUtc, utc]
    · refine (bind_of_reads (number_padded (by decide) (by decide) fits)).trans ?_
      refine (bind_of_reads (char_cons '-')).trans ?_
      refine (bind_of_reads (number_padded (by decide) (by decide) date.month_lt)).trans ?_
      refine (bind_of_reads (char_cons '-')).trans ?_
      refine (bind_of_reads (number_padded (by decide) (by decide) date.day_lt)).trans ?_
      rw [year]
      refine (bind_of_reads (Calendar.day_self date)).trans ?_
      refine (bind_of_reads (charWhere_cons rfl)).trans ?_
      refine (bind_of_reads (number_padded (by decide) (by decide) (by omega))).trans ?_
      refine (bind_of_reads (char_cons ':')).trans ?_
      refine (bind_of_reads (number_padded (by decide) (by decide) (by omega))).trans ?_
      refine (bind_of_reads (char_cons ':')).trans ?_
      refine (bind_of_reads (number_padded (by decide) (by decide) (by omega))).trans ?_
      refine (bind_of_reads (Calendar.fraction_fractionChars clock.nano rfl rfl)).trans ?_
      refine (bind_of_reads (Calendar.clock_self clock)).trans ?_
      rfl
  · rename_i long
    have long : ¬ (0 ≤ date.year ∧ date.year ≤ 9999) := by simpa [hasShortYear, utc] using long
    show Option.bind (whole? _ _) _ = _
    rw [whole?_of_fails]
    · rfl
    · exact bind_of_fails (number_of_stop _ (by decide) (yearChars_of_long long))

end Timestamp

end Sift
