/-
**How days and moments are written.**

Days are written `2024-02-29`; years outside four digits carry a sign and keep at least four digits.
A time of the day has three, six or nine digits of a second's fraction, the fewest that lose
nothing, or none at all.

* `Date.text` — `2024-02-29`.
* `DateTime.text` — the day, a given character between, and the time.
* `Timestamp.text` — the local reading and the offset, `Z` or `+00:00` standing for none.
-/

import Sift.Calendar.Timestamp
import Sift.Text.Numeral

namespace Sift

open Text (padded)

namespace Date

def yearChars (year : Int) : List Char :=
  if year < 0 then '-' :: padded 4 year.natAbs
  else if 9999 < year then '+' :: padded 4 year.natAbs
  else padded 4 year.natAbs

def chars (d : Date) : List Char :=
  yearChars d.year ++ '-' :: padded 2 d.month ++ '-' :: padded 2 d.day

def text (d : Date) : String :=
  String.ofList d.chars

end Date

namespace Clock

/-- The written fraction of a second: its first three, six or nine digits, the rest being zeros. -/
def fractionChars (nano : Nat) : List Char :=
  if nano = 0 then []
  else if nano % 1000000 = 0 then '.' :: padded 3 (nano / 1000000)
  else if nano % 1000 = 0 then '.' :: padded 6 (nano / 1000)
  else '.' :: padded 9 nano

def chars (c : Clock) : List Char :=
  padded 2 (c.minute / 60) ++ ':' :: padded 2 (c.minute % 60) ++ ':' :: padded 2 c.second ++
    fractionChars c.nano

end Clock

namespace DateTime

def chars (between : Char) (t : DateTime) : List Char :=
  t.date.chars ++ between :: t.clock.chars

/-- The written form of a reading, with `between` after the day. -/
def text (between : Char) (t : DateTime) : String :=
  String.ofList (t.chars between)

end DateTime

namespace Offset

/-- The written form of an offset in hours and minutes, even of none. -/
def chars (o : Offset) : List Char :=
  (if o.minutes < 0 then '-' else '+') ::
    (padded 2 (o.minutes.natAbs / 60) ++ ':' :: padded 2 (o.minutes.natAbs % 60))

end Offset

namespace Timestamp

/-- The written form of a timestamp, `short` standing for `Z` in place of an offset of none. -/
def text (short : Bool) (t : Timestamp) : String :=
  String.ofList <|
    t.atLocal.chars 'T' ++
      (if short && t.offset.minutes = 0 then ['Z'] else t.offset.chars)

end Timestamp

end Sift
