/-
**Times of the day, leap seconds included.**

A `Clock` reading is a minute of the day, a second and a nanosecond. The second sixty stands for a
leap second, which any minute may have; it comes after the second fifty-nine of its minute and
before the next minute.

* `Clock.make?` — a reading from hours, minutes, seconds and nanoseconds.
* `Clock.compare` — the order within a day.
-/

namespace Sift

/-- A time of the day. -/
structure Clock where
  minute : Fin 1440
  second : Fin 61
  nano : Fin 1000000000
  deriving DecidableEq

namespace Clock

/-- The reading with these numbers, if it exists. -/
def make? (hour minute second nano : Nat) : Option Clock :=
  if range : hour < 24 ∧ minute < 60 ∧ second < 61 ∧ nano < 1000000000 then
    some ⟨⟨hour * 60 + minute, by omega⟩, ⟨second, range.2.2.1⟩, ⟨nano, range.2.2.2⟩⟩
  else none

def compare (a b : Clock) : Ordering :=
  (Ord.compare a.minute.val b.minute.val).then <|
    (Ord.compare a.second.val b.second.val).then (Ord.compare a.nano.val b.nano.val)

theorem make?_self (c : Clock) :
    make? (c.minute / 60) (c.minute % 60) c.second c.nano = some c := by
  obtain ⟨⟨minute, small⟩, second, nano⟩ := c
  have hour : minute / 60 < 24 := by omega
  have back : minute / 60 * 60 + minute % 60 = minute := by omega
  simp [make?, hour, Nat.mod_lt, back]

end Clock

end Sift
