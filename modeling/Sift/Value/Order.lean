/-
**The order of values.**

* `Value.compare` — the order of two values of comparable kinds: numbers by size, whether whole or
  decimal, timestamps by instant, lists element by element, labeled entries by label and then value.
* `Value.sortCompare` — an order of any two values: that of `compare` where it gives one, and the
  order of the kinds otherwise, with no value before all others.
-/

import Sift.Value.Basic

namespace Sift.Value

/-- The place of a kind among the kinds. -/
def rank : Value → Nat
  | .null => 0
  | .bool _ => 1
  | .int _ | .decimal _ => 2
  | .text _ => 3
  | .timestamp _ | .dateTime _ => 4
  | .date _ => 5
  | .list _ => 6
  | .labeled _ _ => 7
  | .record _ => 8

mutual

/-- The order of two values, if their kinds are comparable. -/
def compare : Value → Value → Option Ordering
  | .null, .null => some .eq
  | .bool a, .bool b => some (Ord.compare a.toNat b.toNat)
  | .int a, .int b => some (Ord.compare a.toInt b.toInt)
  | .decimal a, .decimal b => some (a.compare b)
  | .int a, .decimal b => some ((Decimal.ofInt64 a).compare b)
  | .decimal a, .int b => some (a.compare (Decimal.ofInt64 b))
  | .text a, .text b => some (Ord.compare a b)
  | .timestamp a, .timestamp b => some (a.compare b)
  | .dateTime a, .dateTime b => some (a.compare b)
  | .date a, .date b => some (a.compare b)
  | .list a, .list b => compareAll a b
  | .labeled a x, .labeled b y =>
    match Ord.compare a b with
    | .eq => compare x y
    | order => some order
  | _, _ => none

/-- The order of two lists: that of the first elements to differ, and of the lengths where one list
starts with the other. -/
def compareAll : List Value → List Value → Option Ordering
  | a :: as, b :: bs =>
    match compare a b with
    | some .eq => compareAll as bs
    | order => order
  | [], [] => some .eq
  | [], _ :: _ => some .lt
  | _ :: _, [] => some .gt

end

/-- An order of any two values: by kind where they are not comparable. -/
def sortCompare (a b : Value) : Ordering :=
  (a.compare b).getD (Ord.compare a.rank b.rank)

end Sift.Value
