/-
**Days of the calendar.**

The Gregorian calendar extended in both directions, from `firstYear` to `lastYear`. A `Date` carries
the proof that it exists, so the thirtieth of February cannot be built.

* `Date.next?`, `Date.previous?` — the neighbouring days, absent at the ends of the calendar.
* `Date.compare` — the order of days.
-/

namespace Sift

def firstYear : Int := -262143

def lastYear : Int := 262142

/-- Whether a year has a twenty-ninth of February. -/
def isLeapYear (year : Int) : Bool :=
  year % 4 = 0 && (year % 100 ≠ 0 || year % 400 = 0)

/-- The number of days of a month, counted from one for January. -/
def daysInMonth (year : Int) : Nat → Nat
  | 2 => if isLeapYear year then 29 else 28
  | 4 | 6 | 9 | 11 => 30
  | _ => 31

/-- Whether a year, a month and a day of the month name a day of the calendar. -/
def isDay (year : Int) (month day : Nat) : Bool :=
  firstYear ≤ year && year ≤ lastYear && 1 ≤ month && month ≤ 12 && 1 ≤ day &&
    day ≤ daysInMonth year month

/-- A day of the calendar. -/
structure Date where
  year : Int
  month : Nat
  day : Nat
  valid : isDay year month day = true
  deriving DecidableEq

namespace Date

/-- The day with these numbers, if there is one. -/
def make? (year : Int) (month day : Nat) : Option Date :=
  if valid : isDay year month day = true then some ⟨year, month, day, valid⟩ else none

/-- The following day: the first of the next month or year where there is no later day in this one,
and nothing after the end of the calendar. -/
def next? (d : Date) : Option Date :=
  make? d.year d.month (d.day + 1) <|> make? d.year (d.month + 1) 1 <|> make? (d.year + 1) 1 1

/-- The day before, absent at the beginning of the calendar. -/
def previous? (d : Date) : Option Date :=
  make? d.year d.month (d.day - 1) <|>
    make? d.year (d.month - 1) (daysInMonth d.year (d.month - 1)) <|> make? (d.year - 1) 12 31

def compare (a b : Date) : Ordering :=
  (Ord.compare a.year b.year).then <|
    (Ord.compare a.month b.month).then (Ord.compare a.day b.day)

theorem make?_self (d : Date) : make? d.year d.month d.day = some d := by
  simp [make?, d.valid]

example : (make? 2024 2 29).bind next? = make? 2024 3 1 := by decide
example : (make? 2023 1 1).bind previous? = make? 2022 12 31 := by decide
example : make? 2023 2 29 = none := by decide

end Date

end Sift
