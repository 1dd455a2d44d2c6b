/-
**What scans take off the front of a text.**

Each lemma says what a scan reads where the text starts with what the scan is made for, and what it
leaves. `bind_of_reads` puts such lemmas together, one for each step.

* `Scan.digits_append` — a run of digits is taken whole where it ends by itself or by its width.
* `Scan.number_padded`, `Scan.number_padded_of_stop` — a number is read back from its digits.
* `Scan.many_flatMap` — as many pieces are taken as there are.
-/

import Sift.Proofs.Text.Numeral
import Sift.Text.Scan

namespace Sift.Text.Scan

variable {α β : Type} {rest : List Char}

/-- A step that reads something is followed by what is done with it, on what it leaves. -/
theorem bind_of_reads {first : Scan α} {next : α → Scan β} {text : List Char} {value : α}
    (reads : first text = some (value, rest)) : (first >>= next) text = next value rest := by
  show (first text).bind _ = _
  rw [reads]
  rfl

/-- Where a step reads nothing, nothing is done. -/
theorem bind_of_fails {first : Scan α} {next : α → Scan β} {text : List Char}
    (fails : first text = none) : (first >>= next) text = none := by
  show (first text).bind _ = _
  rw [fails]
  rfl

theorem pure_eq (value : α) (text : List Char) : (pure value : Scan α) text = some (value, text) :=
  rfl

/-- What is read from a whole text leaves nothing of it. -/
theorem whole?_of_reads {scan : Scan α} {text : List Char} {value : α}
    (reads : scan text = some (value, [])) : whole? scan text = some value := by
  rw [whole?, reads]

theorem whole?_of_fails {scan : Scan α} {text : List Char} (fails : scan text = none) :
    whole? scan text = none := by
  rw [whole?, fails]

theorem charWhere_cons {test : Char → Bool} {c : Char} (passes : test c = true) :
    charWhere test (c :: rest) = some (c, rest) :=
  if_pos passes

theorem char_cons (c : Char) : char c (c :: rest) = some (c, rest) :=
  charWhere_cons (beq_self_eq_true c)

theorem peek_eq (test : Char → Bool) (text : List Char) :
    peek test text = some (text.head?.any test, text) := rfl

/-- Where a text does not start with a passing character, nothing is passed over. -/
theorem skipWhile_of_stop {test : Char → Bool} (stop : rest.head?.any test = false) :
    skipWhile test rest = some ((), rest) := by
  cases rest with
  | nil => rfl
  | cons c rest =>
    have stop : test c = false := stop
    simp [skipWhile, stop]

/-- What a number starts with is a digit. -/
theorem head?_padded_any {test : Char → Bool} (none : ∀ c : Char, c.isDigit = true → test c = false)
    (width n : Nat) : (padded width n ++ rest).head?.any test = false := by
  have digits : ∀ c ∈ padded width n, c.isDigit = true := fun c => isDigit_of_mem_padded
  cases here : padded width n with
  | nil => exact absurd here (padded_ne_nil width n)
  | cons c tail => exact none c (digits c (by rw [here]; exact List.mem_cons_self))

/-- A longest run ends where the next character does not pass. -/
theorem takeWhile_append_of_stop {test : Char → Bool} {run : List Char}
    (all : ∀ c ∈ run, test c = true) (stop : rest.head?.any test = false) :
    (run ++ rest).takeWhile test = run := by
  rw [List.takeWhile_append_of_pos all]
  cases rest with
  | nil => simp
  | cons c rest =>
    have stop : test c = false := stop
    simp [stop]

/-- **A run of digits is taken whole** where no digit follows it, or where it is as long as it may
be. -/
theorem digits_append {least : Nat} {most : Option Nat} {run : List Char}
    (all : ∀ c ∈ run, c.isDigit = true) (enough : least ≤ run.length)
    (fits : ∀ bound ∈ most, run.length ≤ bound)
    (stops : most = some run.length ∨ rest.head?.any Char.isDigit = false) :
    digits least most (run ++ rest) = some (run, rest) := by
  have taken : ((run ++ rest).take (most.getD (run ++ rest).length)).takeWhile Char.isDigit
      = run := by
    rcases stops with width | stop
    · have alone := takeWhile_append_of_stop all (rfl : ([] : List Char).head?.any _ = false)
      rw [List.append_nil] at alone
      rwa [width, Option.getD_some, List.take_left]
    · have long : run.length ≤ most.getD (run ++ rest).length := by
        cases most with
        | none => simp
        | some bound => exact fits bound rfl
      rw [List.take_append, List.take_of_length_le long]
      refine takeWhile_append_of_stop all ?_
      rw [List.head?_take]
      split
      · rfl
      · exact stop
  simp only [digits, taken, Nat.not_lt.mpr enough, if_false, List.drop_left]

/-- The number of a run of digits that is taken whole. -/
theorem number_of_digits {least width n : Nat} {most : Option Nat}
    (run : digits least most (padded width n ++ rest) = some (padded width n, rest)) :
    number least most (padded width n ++ rest) = some (n, rest) := by
  refine (bind_of_reads run).trans ?_
  rw [ofDigitChars_padded]
  rfl

/-- A number is read back from as many digits as may stand there, whatever follows. -/
theorem number_padded {least width n : Nat} (positive : 0 < width) (enough : least ≤ width)
    (fits : n < 10 ^ width) :
    number least (some width) (padded width n ++ rest) = some (n, rest) := by
  have length := length_padded positive fits
  refine number_of_digits (digits_append (fun c => isDigit_of_mem_padded) ?_ ?_ (.inl ?_))
  · omega
  · simp [length]
  · rw [length]

/-- A number is read back from all its digits where no digit follows. -/
theorem number_padded_of_stop {least width n : Nat} (enough : least ≤ width)
    (stop : rest.head?.any Char.isDigit = false) :
    number least none (padded width n ++ rest) = some (n, rest) := by
  have long := le_length_padded width n
  refine number_of_digits (digits_append (fun c => isDigit_of_mem_padded) ?_ ?_ (.inr stop))
  · omega
  · simp

/-- Where no digit stands, no number is read. -/
theorem number_of_stop {least : Nat} (most : Option Nat) {text : List Char} (positive : 0 < least)
    (stop : text.head?.any Char.isDigit = false) : number least most text = none := by
  refine bind_of_fails ?_
  have stop : (text.take (most.getD text.length)).head?.any Char.isDigit = false := by
    rw [List.head?_take]
    split
    · rfl
    · exact stop
  have none : ([] ++ text.take (most.getD text.length)).takeWhile Char.isDigit = [] :=
    takeWhile_append_of_stop (by simp) stop
  rw [List.nil_append] at none
  simp [digits, none, positive]

/-! ### One piece after another -/

/-- Reads pieces as long as the text goes on with a character that passes the test. A piece that
takes nothing off the text is refused. -/
def many (more : Char → Bool) (scan : Scan α) : Scan (List α) := fun text =>
  if text.head?.any more then
    match scan text with
    | some (piece, rest) =>
      if rest.length < text.length then
        (many more scan rest).map fun (pieces, rest) => (piece :: pieces, rest)
      else none
    | none => none
  else some ([], text)
termination_by text => text.length

/-- As many pieces are read as were written, where nothing that starts like a piece follows. -/
theorem many_flatMap {more : Char → Bool} {scan : Scan α} {write : α → List Char} {pieces : List α}
    (starts : ∀ piece ∈ pieces, (write piece).head?.any more = true)
    (reads : ∀ piece ∈ pieces, ∀ rest, scan (write piece ++ rest) = some (piece, rest))
    (stop : rest.head?.any more = false) :
    many more scan (pieces.flatMap write ++ rest) = some (pieces, rest) := by
  induction pieces with
  | nil =>
    rw [many, List.flatMap_nil, List.nil_append, stop]
    rfl
  | cons piece others ih =>
    have first := starts piece List.mem_cons_self
    have read := reads piece List.mem_cons_self (others.flatMap write ++ rest)
    have later := ih (fun other member => starts other (List.mem_cons_of_mem piece member))
      fun other member => reads other (List.mem_cons_of_mem piece member)
    cases written : write piece with
    | nil => simp [written] at first
    | cons c tail =>
      have shorter : (others.flatMap write ++ rest).length
          < (write piece ++ (others.flatMap write ++ rest)).length := by
        simp only [written, List.length_append, List.length_cons]
        omega
      have front : (write piece ++ (others.flatMap write ++ rest)).head?.any more = true := by
        rw [written] at first ⊢
        exact first
      rw [List.flatMap_cons, List.append_assoc, many, if_pos front, read]
      show (if _ then _ else none) = _
      rw [if_pos shorter, later]
      rfl

end Sift.Text.Scan
