/-
**Readers of the beginning of a text.**

A `Scan` takes what it understands off the front of a text and leaves the rest, or fails. Scans are
put together with `do`, each step going on with the rest that the step before it left.

* `Scan.number` — a run of digits, of at least and at most so many.
* `Scan.whole?` — what a scan reads from a text that it has to use up.
-/

import Sift.Text.Blank

namespace Sift.Text

/-- A reader of the beginning of a text. -/
abbrev Scan := StateT (List Char) Option

namespace Scan

/-- What a scan reads from a text of which it leaves nothing. -/
def whole? {α : Type} (scan : Scan α) (text : List Char) : Option α :=
  match scan text with
  | some (result, []) => some result
  | _ => none

/-- Takes one character that passes the test. -/
def charWhere (test : Char → Bool) : Scan Char
  | [] => none
  | c :: rest => if test c then some (c, rest) else none

def char (c : Char) : Scan Char := charWhere (· == c)

/-- Passes over the longest run of characters that pass the test. -/
def skipWhile (test : Char → Bool) : Scan Unit :=
  fun text => some ((), text.dropWhile test)

def blanks : Scan Unit := skipWhile isBlank

/-- Takes a run of digits, as long as it goes but at most `most` where that is given, and refuses
one shorter than `least`. -/
def digits (least : Nat) (most : Option Nat) : Scan (List Char) := fun text =>
  let run := (text.take (most.getD text.length)).takeWhile Char.isDigit
  if run.length < least then none else some (run, text.drop run.length)

/-- The number that a run of digits stands for. -/
def number (least : Nat) (most : Option Nat) : Scan Nat := do
  return Nat.ofDigitChars 10 (← digits least most) 0

/-- Whether the text goes on with a character that passes the test. -/
def peek (test : Char → Bool) : Scan Bool := fun text =>
  some (text.head?.any test, text)

example : (number 1 (some 2)) "123".toList = some (12, ['3']) := by cbv
example : whole? (number 1 none) "123".toList = some 123 := by cbv

end Scan

end Sift.Text
