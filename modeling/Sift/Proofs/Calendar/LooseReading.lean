/-
**Days and moments are read back where blanks are allowed.**

The loose grammars read every day and every moment back from its written form: years of any length
carry their sign there, offsets are written out, and no part of the written form could be taken for
the beginning of the next one.

* `Date.parseLoose?_text`, `DateTime.parseLoose?_text`, `Timestamp.parseLoose?_text`.
-/

import Sift.Proofs.Calendar.Reading

namespace Sift

open Text (padded Scan)
open Text.Scan

variable {rest : List Char}

namespace Calendar

/-- Blanks are passed over where there are none. -/
theorem blanks_of_stop (stop : rest.head?.any Text.isBlank = false) :
    Scan.blanks rest = some ((), rest) :=
  skipWhile_of_stop stop

theorem blanks_hyphen (rest : List Char) : Scan.blanks ('-' :: rest) = some ((), '-' :: rest) :=
  rfl

/-- Whether a character may follow a time of the day: no blank, and nothing that goes on with the
fraction of a second. -/
def endsClock (c : Char) : Bool :=
  !(c.isDigit || c == '.' || Text.isBlank c)

/-- **A time of the day is read back** where it has ended. -/
theorem looseClock_chars (c : Clock) (ended : rest.head?.all endsClock = true) :
    looseClock (c.chars ++ rest) = some (c, rest) := by
  have minute := c.minute.isLt
  have second := c.second.isLt
  have stop (test : Char → Bool)
      (part : ∀ c, test c = true → endsClock c = false) : rest.head?.any test = false := by
    cases rest with
    | nil => rfl
    | cons c rest =>
      refine Bool.eq_false_iff.mpr fun passes => ?_
      exact absurd ended (Bool.eq_false_iff.mp (part c passes))
  have noDigit := stop Char.isDigit fun c digit => by simp [endsClock, digit]
  have noPoint := stop (· == '.') fun c point => by simp [endsClock, eq_of_beq point]
  have noBlank := stop Text.isBlank fun c blank => by simp [endsClock, blank]
  have parts : c.chars ++ rest = padded 2 (c.minute / 60) ++ ':' :: (padded 2 (c.minute % 60) ++
      ':' :: (padded 2 c.second ++ (Clock.fractionChars c.nano ++ rest))) := by simp [Clock.chars]
  rw [parts]
  refine (bind_of_reads (shortNumber_padded (by omega))).trans ?_
  refine (bind_of_reads (blanks_of_stop rfl)).trans ?_
  refine (bind_of_reads (char_cons ':')).trans ?_
  refine (bind_of_reads (shortNumber_padded (by omega))).trans ?_
  refine (bind_of_reads (blanks_of_stop rfl)).trans ?_
  refine (bind_of_reads (char_cons ':')).trans ?_
  refine (bind_of_reads (shortNumber_padded (by omega))).trans ?_
  refine (bind_of_reads (fraction_fractionChars c.nano noPoint noDigit)).trans ?_
  refine (bind_of_reads (blanks_of_stop noBlank)).trans ?_
  exact clock_self c

/-- What does not start with a letter of `UTC` is read as an offset. -/
theorem looseOffset_of_ne {c : Char} (other : c.toUpper ≠ 'U') (text : List Char) :
    looseOffset (c :: text) =
      offset (Scan.skipWhile fun c => c == ':' || Text.isBlank c) (c :: text) := by
  refine if_neg ?_
  rw [List.take_succ_cons, List.map_cons]
  exact fun same => other (List.cons.inj same).1

theorem looseOffset_zero : looseOffset ('Z' :: rest) = some (.zero, rest) := by
  rw [looseOffset_of_ne (by decide)]
  rfl

/-- The gap between hours and minutes is the colon that stands there. -/
theorem skipWhile_colon (n : Nat) :
    (Scan.skipWhile fun c => c == ':' || Text.isBlank c) (':' :: (padded 2 n ++ rest)) =
      some ((), padded 2 n ++ rest) := by
  have stop : (padded 2 n ++ rest).head?.any (fun c => c == ':' || Text.isBlank c) = false := by
    refine head?_padded_any (fun c digit => ?_) 2 n
    have colon : c ≠ ':' := by
      rintro rfl
      exact absurd digit (by decide)
    simp [colon, Text.isBlank_of_isDigit digit]
  exact skipWhile_of_stop stop

/-- What is read as an offset from a sign, hours and minutes. -/
theorem looseOffset_signed {sign : Char} (signed : sign = '+' ∨ sign = '-') {minutes : Nat}
    (fits : minutes < 1440) :
    looseOffset (sign :: (padded 2 (minutes / 60) ++ ':' :: (padded 2 (minutes % 60) ++ rest))) =
      (Offset.make? (if isMinus sign then -(minutes : Int) else minutes)).map (·, rest) := by
  have total : ((minutes / 60 : Nat) : Int) * 60 + (minutes % 60 : Nat) = minutes := by omega
  have short : minutes % 60 < 60 := Nat.mod_lt _ (by decide)
  have noLetter : sign.toUpper ≠ 'U' := by rcases signed with rfl | rfl <;> decide
  have noZero : (sign == 'Z' || sign == 'z') = false := by rcases signed with rfl | rfl <;> rfl
  have passes : (sign == '+' || isMinus sign) = true := by rcases signed with rfl | rfl <;> rfl
  rw [looseOffset_of_ne noLetter, offset]
  refine (bind_of_reads (peek_eq _ _)).trans ?_
  rw [List.head?_cons, Option.any_some, noZero]
  refine (bind_of_reads (charWhere_cons passes)).trans ?_
  refine (bind_of_reads (number_padded (by decide) (by decide) (by omega))).trans ?_
  refine (bind_of_reads (skipWhile_colon _)).trans ?_
  refine (bind_of_reads (number_padded (by decide) (by decide) (by omega))).trans ?_
  rw [total]
  exact if_pos short

/-- **An offset is read back** from its sign, its hours and its minutes. -/
theorem looseOffset_chars (o : Offset) (rest : List Char) :
    looseOffset (o.chars ++ rest) = some (o, rest) := by
  have fits : o.minutes.natAbs < 1440 := by
    have := o.west
    have := o.east
    omega
  have self : Offset.make? o.minutes = some o := dif_pos ⟨o.west, o.east⟩
  have written : o.chars ++ rest = (if o.minutes < 0 then '-' else '+') ::
      (padded 2 (o.minutes.natAbs / 60) ++ ':' :: (padded 2 (o.minutes.natAbs % 60) ++ rest)) := by
    simp [Offset.chars]
  have value : (if isMinus (if o.minutes < 0 then '-' else '+') then -(o.minutes.natAbs : Int)
      else o.minutes.natAbs) = o.minutes := by
    by_cases negative : o.minutes < 0
    · rw [if_pos negative, if_pos (by decide)]
      omega
    · rw [if_neg negative, if_neg (by decide)]
      omega
  rw [written, looseOffset_signed (by split <;> simp) fits, value, self]
  rfl

end Calendar

open Calendar

/-- **Every day is read back.** -/
theorem Date.parseLoose?_text (d : Date) : Date.parseLoose? d.text = some d := by
  have run : (looseDay Scan.blanks <* Scan.blanks) (d.chars ++ []) = some (d, []) := by
    refine (bind_of_reads (looseDay_chars blanks_hyphen d)).trans ?_
    rfl
  rw [List.append_nil] at run
  rw [parseLoose?, text, String.toList_ofList]
  exact whole?_of_reads run

/-- **Every moment without a zone is read back.** -/
theorem DateTime.parseLoose?_text (t : DateTime) : DateTime.parseLoose? (t.text 'T') = some t := by
  have parts : (t.text 'T').toList = t.date.chars ++ 'T' :: (t.clock.chars ++ []) := by
    simp [text, DateTime.chars]
  rw [parseLoose?, parts]
  refine whole?_of_reads ?_
  refine (bind_of_reads (looseDay_chars blanks_hyphen t.date)).trans ?_
  refine (bind_of_reads (blanks_of_stop rfl)).trans ?_
  refine (bind_of_reads (char_cons 'T')).trans ?_
  refine (bind_of_reads (looseClock_chars t.clock rfl)).trans ?_
  rfl

theorem Offset.eq_zero {o : Offset} (none : o.minutes = 0) : o = .zero := by
  cases o
  cases none
  rfl

/-- A timestamp is the one of its local reading and its offset. -/
theorem Timestamp.ofLocal?_self (t : Timestamp) : ofLocal? t.atLocal t.offset = some t := by
  unfold ofLocal?
  split
  · rename_i utc agree
    have same := Option.some.inj (t.agree.symm.trans agree)
    cases t
    cases same
    rfl
  · rename_i failed
    rw [t.agree] at failed
    cases failed

/-- **Every moment with a zone is read back**, zone included. -/
theorem Timestamp.parseLoose?_text (t : Timestamp) :
    Timestamp.parseLoose? (t.text true) = some t := by
  obtain ⟨zone, written, ends, read⟩ : ∃ zone : List Char,
      (t.text true).toList = t.atLocal.chars 'T' ++ zone ∧ zone.head?.all endsClock = true ∧
        looseOffset zone = some (t.offset, []) := by
    by_cases none : t.offset.minutes = 0
    · exact ⟨['Z'], by simp [text, none], rfl, by rw [Offset.eq_zero none, looseOffset_zero]⟩
    · refine ⟨t.offset.chars, by simp [text, none], ?_, ?_⟩
      · unfold Offset.chars
        split <;> rfl
      · simpa using looseOffset_chars t.offset []
  have parts : (t.text true).toList
      = t.atLocal.date.chars ++ 'T' :: (t.atLocal.clock.chars ++ zone) := by
    simp [written, DateTime.chars]
  rw [parseLoose?, parts]
  show Option.bind (whole? _ _) _ = _
  rw [whole?_of_reads (?_ : _ = some ((t.atLocal, t.offset), []))]
  · exact t.ofLocal?_self
  · refine (bind_of_reads (looseDay_chars blanks_hyphen t.atLocal.date)).trans ?_
    refine (bind_of_reads (charWhere_cons rfl)).trans ?_
    refine (bind_of_reads (looseClock_chars t.atLocal.clock ends)).trans ?_
    refine (bind_of_reads read).trans ?_
    rfl

end Sift
