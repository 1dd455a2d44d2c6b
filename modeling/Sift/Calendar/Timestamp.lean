/-
**Moments, with and without a zone.**

A `DateTime` is a day and a time of the day, read off some clock on a wall. A `Timestamp` says in
addition how far that clock is ahead of universal time, so that it names an instant.

* `DateTime.shift?` — the reading of a clock some minutes ahead, if the calendar has it.
* `Timestamp.ofLocal?` — a timestamp from a local reading and an offset.
* `Timestamp.toUtc` — the same instant, read off the clock of universal time.
* `Timestamp.compare` — the order of instants: the offset plays no part.
-/

import Sift.Calendar.Date
import Sift.Calendar.Clock

namespace Sift

/-- A day and a time of the day, without a zone. -/
structure DateTime where
  date : Date
  clock : Clock
  deriving DecidableEq

namespace DateTime

def compare (a b : DateTime) : Ordering :=
  (a.date.compare b.date).then (a.clock.compare b.clock)

/-- What a clock shows that is this many minutes ahead, for less than a day in either direction. -/
def shift? (t : DateTime) (minutes : Int) : Option DateTime :=
  let total := (t.clock.minute.val : Int) + minutes
  if early : -1440 ≤ total ∧ total < 0 then
    t.date.previous?.map fun date =>
      ⟨date, { t.clock with minute := ⟨(total + 1440).toNat, by omega⟩ }⟩
  else if same : 0 ≤ total ∧ total < 1440 then
    some ⟨t.date, { t.clock with minute := ⟨total.toNat, by omega⟩ }⟩
  else if late : 1440 ≤ total ∧ total < 2880 then
    t.date.next?.map fun date =>
      ⟨date, { t.clock with minute := ⟨(total - 1440).toNat, by omega⟩ }⟩
  else none

theorem shift?_zero (t : DateTime) : t.shift? 0 = some t := by
  obtain ⟨date, ⟨⟨minute, small⟩, second, nano⟩⟩ := t
  have notEarly : ¬ ((minute : Int) < 0) := by omega
  have same : (minute : Int) < 1440 := by omega
  simp [shift?, notEarly, same]

end DateTime

/-- How many minutes a local clock is ahead of universal time: less than a day, either way. -/
structure Offset where
  minutes : Int
  west : -1440 < minutes
  east : minutes < 1440
  deriving DecidableEq

namespace Offset

def zero : Offset := ⟨0, by decide, by decide⟩

/-- The offset of this many minutes, if it is less than a day. -/
def make? (minutes : Int) : Option Offset :=
  if range : -1440 < minutes ∧ minutes < 1440 then some ⟨minutes, range.1, range.2⟩ else none

end Offset

/-- An instant, with the local clock that it was read off. -/
structure Timestamp where
  atLocal : DateTime
  offset : Offset
  utc : DateTime
  agree : atLocal.shift? (-offset.minutes) = some utc
  deriving DecidableEq

namespace Timestamp

/-- The timestamp of a local reading, if universal time stays within the calendar. -/
def ofLocal? (atLocal : DateTime) (offset : Offset) : Option Timestamp :=
  match agree : atLocal.shift? (-offset.minutes) with
  | some utc => some ⟨atLocal, offset, utc, agree⟩
  | none => none

def ofUtc (utc : DateTime) : Timestamp :=
  ⟨utc, .zero, utc, utc.shift?_zero⟩

/-- The same instant at offset zero. -/
def toUtc (t : Timestamp) : Timestamp :=
  ofUtc t.utc

def compare (a b : Timestamp) : Ordering :=
  a.utc.compare b.utc

/-- Timestamps are equal when they name one instant. -/
instance : BEq Timestamp := ⟨fun a b => a.utc == b.utc⟩

end Timestamp

end Sift
