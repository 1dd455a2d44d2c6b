/-
**Slices: which positions of a sequence are selected.**

A slice has a start, a stop and a step, each a signed number of 64 bits. Negative bounds count from
the end, and bounds beyond an end stand for that end. A negative step walks backwards.

* `Slice.positions?` — the selected positions, or none if the walk leaves the range of 64 bits.
* `Slice.resolveIndex?` — a single position, possibly counted from the end.
-/

namespace Sift

structure Slice where
  start : Option Int64
  stop : Option Int64
  step : Int64
  deriving DecidableEq

namespace Slice

/-- The slice from one unsigned position to another, their bits read as signed numbers. -/
def ofRange (start stop : Option Nat) : Slice :=
  ⟨start.map Int64.ofNat, stop.map Int64.ofNat, 1⟩

/-- Whether a slice can be taken without knowing where the sequence ends. -/
def isForward (slice : Slice) : Bool :=
  0 < slice.step.toInt && 0 ≤ (slice.start.getD 0).toInt && 0 ≤ (slice.stop.getD 0).toInt

/-- A number brought between two others. -/
def clamp (lower upper value : Int) : Int :=
  max lower (min upper value)

/-- A bound within a sequence: absent it has a default, and negative it counts from the end. -/
def bound (length default lower upper : Int) : Option Int64 → Int
  | none => default
  | some value =>
    if value.toInt < 0 then clamp lower upper (value.toInt + length)
    else clamp lower upper value.toInt

/-- Where the walk starts, and where it has to stop, in a sequence of this length. -/
def bounds (slice : Slice) (length : Int) : Int × Int :=
  if 0 < slice.step.toInt then
    (bound length 0 0 length slice.start, bound length length 0 length slice.stop)
  else
    (bound length (length - 1) (-1) (length - 1) slice.start,
      bound length (-1) (-1) (length - 1) slice.stop)

/-- Whether a number is one of 64 bits with a sign. -/
def isWord (n : Int) : Bool :=
  Int64.minValue.toInt ≤ n && n ≤ Int64.maxValue.toInt

/-- The positions of a walk upwards from `i` to below `stop`. The position after the last one is
computed as well, and has to be a number of 64 bits. -/
def ascend (step stop i : Int) : Option (List Nat) :=
  if 0 < step ∧ i < stop then
    if isWord (i + step) then (ascend step stop (i + step)).map (i.toNat :: ·) else none
  else some []
termination_by (stop - i).toNat

/-- The positions of a walk downwards from `i` to above `stop`. -/
def descend (step stop i : Int) : Option (List Nat) :=
  if step < 0 ∧ stop < i then
    if isWord (i + step) then (descend step stop (i + step)).map (i.toNat :: ·) else none
  else some []
termination_by (i - stop).toNat

/-- The positions selected from a sequence of this length, in order; none where a step leads beyond
the numbers of 64 bits. A step of zero selects nothing. -/
def positions? (slice : Slice) (length : Nat) : Option (List Nat) :=
  let (start, stop) := slice.bounds length
  if 0 < slice.step.toInt then ascend slice.step.toInt stop start
  else descend slice.step.toInt stop start

def select? {α : Type} (slice : Slice) (elements : List α) : Option (List α) :=
  (slice.positions? elements.length).map fun positions =>
    positions.filterMap fun position => elements[position]?

/-- The position that an index names in a sequence of this length. -/
def resolveIndex? (index : Int64) (length : Nat) : Option Nat :=
  let position := if index.toInt < 0 then index.toInt + length else index.toInt
  if 0 ≤ position && position < length then some position.toNat else none

/-- Every element whose position is a multiple of `step`; `skip` more are passed over first. -/
def everyNth {α : Type} (step : Nat) : (skip : Nat) → List α → List α
  | _, [] => []
  | 0, x :: rest => x :: everyNth step (step - 1) rest
  | skip + 1, _ :: rest => everyNth step skip rest

example : (Slice.mk (some 4) (some 1) (-2)).positions? 6 = some [4, 2] := by
  cbv
example : everyNth 2 0 [0, 1, 2, 3, 4] = [0, 2, 4] := by decide

end Slice

end Sift
