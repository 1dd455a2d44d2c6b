/-
**Reading days and moments.**

Two grammars read a moment with a zone, and two read a day.

* `Timestamp.parse?` — the strict grammar: every number in its full width, `T`, `t` or a space after
  the day, and nothing around.
* `Timestamp.parseLoose?` — shorter numbers, blanks between most parts, signed years, and `UTC` for
  the zone.
* `Date.parse?` — year, month and day with hyphens between, numbers possibly short, blanks only
  before a number.
* `Date.parseLoose?`, `DateTime.parseLoose?` — blanks between all parts.

A second of sixty is a leap second in each of them.
-/

import Sift.Calendar.Timestamp
import Sift.Text.Scan

namespace Sift

open Text (Scan)

namespace Calendar

/-- The characters that may stand for a minus before an offset. -/
def isMinus (c : Char) : Bool := c == '-' || c == '−'

/-- A number of at most two digits, with blanks before it. -/
def shortNumber : Scan Nat := do
  Scan.blanks
  Scan.number 1 (some 2)

/-- A year: up to four digits, or a sign and any number of digits, with blanks before it. -/
def year : Scan Int := do
  Scan.blanks
  if ← Scan.peek (· == '-') then
    let _ ← Scan.char '-'
    return -((← Scan.number 1 none) : Int)
  else if ← Scan.peek (· == '+') then
    let _ ← Scan.char '+'
    return ((← Scan.number 1 none) : Int)
  else
    return ((← Scan.number 1 (some 4)) : Int)

/-- The fraction of a second in nanoseconds: nine digits count, and later ones are passed over. -/
def fraction : Scan Nat := do
  if ← Scan.peek (· == '.') then
    let _ ← Scan.char '.'
    let digits ← Scan.digits 1 (some 9)
    Scan.skipWhile Char.isDigit
    return Nat.ofDigitChars 10 digits 0 * Nat.pow 10 (9 - digits.length)
  else
    return 0

def day (year : Int) (month day : Nat) : Scan Date := fun text =>
  (Date.make? year month day).map (·, text)

def clock (hour minute second nano : Nat) : Scan Clock := fun text =>
  (Clock.make? hour minute second nano).map (·, text)

/-- A day, with `between` run on either side of the gap before each hyphen. -/
def looseDay (between : Scan Unit) : Scan Date := do
  let y ← year
  between
  let _ ← Scan.char '-'
  let m ← shortNumber
  between
  let _ ← Scan.char '-'
  let d ← shortNumber
  day y m d

/-- A time of the day, with blanks allowed around its parts. -/
def looseClock : Scan Clock := do
  let hour ← shortNumber
  Scan.blanks
  let _ ← Scan.char ':'
  let minute ← shortNumber
  Scan.blanks
  let _ ← Scan.char ':'
  let second ← shortNumber
  let nano ← fraction
  Scan.blanks
  clock hour minute second nano

/-- An offset: `Z`, or a sign, two digits of hours, a gap, and two digits of minutes. -/
def offset (gap : Scan Unit) : Scan Offset := do
  if ← Scan.peek fun c => c == 'Z' || c == 'z' then
    let _ ← Scan.charWhere fun _ => true
    return .zero
  let sign ← Scan.charWhere fun c => c == '+' || isMinus c
  let hours ← Scan.number 2 (some 2)
  gap
  let minutes ← Scan.number 2 (some 2)
  let total : Int := hours * 60 + minutes
  fun text =>
    if minutes < 60 then (Offset.make? (if isMinus sign then -total else total)).map (·, text)
    else none

/-- The zone `UTC` in any case, or an offset whose gap is any run of colons and blanks. -/
def looseOffset : Scan Offset := fun text =>
  if (text.take 3).map Char.toUpper = ['U', 'T', 'C'] then some (.zero, text.drop 3)
  else offset (Scan.skipWhile fun c => c == ':' || Text.isBlank c) text

end Calendar

open Calendar

def Date.parse? (text : String) : Option Date :=
  Scan.whole? (looseDay (pure ())) text.toList

/-- Reads a day with blanks between its parts and after them. -/
def Date.parseLoose? (text : String) : Option Date :=
  Scan.whole? (looseDay Scan.blanks <* Scan.blanks) text.toList

/-- Reads a moment without a zone, with blanks between its parts. -/
def DateTime.parseLoose? (text : String) : Option DateTime :=
  Scan.whole? (do
    let date ← looseDay Scan.blanks
    Scan.blanks
    let _ ← Scan.char 'T'
    return ⟨date, ← looseClock⟩) text.toList

/-- Reads a moment with its zone, with blanks between its parts. -/
def Timestamp.parseLoose? (text : String) : Option Timestamp := do
  let (t, offset) ← Scan.whole? (do
    let date ← looseDay Scan.blanks
    let _ ← Scan.charWhere fun c => c == 't' || c == 'T' || c == ' '
    let clock ← looseClock
    let offset ← looseOffset
    Scan.blanks
    return ((⟨date, clock⟩ : DateTime), offset)) text.toList
  Timestamp.ofLocal? t offset

/-- Reads a moment with its zone, every number in its full width. -/
def Timestamp.parse? (text : String) : Option Timestamp := do
  let (t, offset) ← Scan.whole? (do
    let year ← Scan.number 4 (some 4)
    let _ ← Scan.char '-'
    let month ← Scan.number 2 (some 2)
    let _ ← Scan.char '-'
    let date ← day year month (← Scan.number 2 (some 2))
    let _ ← Scan.charWhere fun c => c == 't' || c == 'T' || c == ' '
    let hour ← Scan.number 2 (some 2)
    let _ ← Scan.char ':'
    let minute ← Scan.number 2 (some 2)
    let _ ← Scan.char ':'
    let second ← Scan.number 2 (some 2)
    let clock ← clock hour minute second (← fraction)
    let offset ← Calendar.offset (do let _ ← Scan.char ':')
    return ((⟨date, clock⟩ : DateTime), offset)) text.toList
  Timestamp.ofLocal? t offset

end Sift
