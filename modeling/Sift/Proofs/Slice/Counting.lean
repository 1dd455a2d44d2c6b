/-
**The positions of a slice, counted out.**

How many positions a slice selects is known before it is walked: it is the way from the start to the
stop in steps, rounded up. So the positions are a progression of that many members
(`Slice.progression`). Its ends are the bounds of the slice, each brought into the sequence by
comparing it with the two ends of the sequence (`Slice.adjusted`).

* `Slice.adjustedStart_eq`, `Slice.adjustedStop_eq` — the ends of the progression are the origin and
  the limit of the slice.
* `Slice.lt_stepCount_iff` — a member is counted exactly if it has not met the stop.
* `Slice.positions_counted` — the positions are the progression, each in the sequence, rising or
  falling with the step. With it the single positions that indices name.
-/

import Sift.Proofs.Slice.Progression

namespace Sift.Slice

/-! ### Progressions -/

/-- How many steps lead from a start to before a stop. -/
def stepCount (start stop step : Int) : Nat :=
  if step < 0 then
    if stop < start then ((start - stop - 1) / -step + 1).toNat else 0
  else
    if start < stop then ((stop - start - 1) / step + 1).toNat else 0

/-- The numbers from a start to before a stop, in equal steps. -/
def progression (start stop step : Int) : List Int :=
  (List.range (stepCount start stop step)).map fun steps : Nat => start + steps * step

/-- As many steps fit into a distance as their lengths together do. -/
theorem lt_quotient_iff {distance step : Int} (far : 0 ≤ distance) (positive : 0 < step)
    (steps : Nat) : steps < (distance / step + 1).toNat ↔ steps * step ≤ distance := by
  rw [← Int.le_ediv_iff_mul_le positive]
  have quotient : 0 ≤ distance / step := Int.ediv_nonneg far (Int.le_of_lt positive)
  omega

/-- **A member of a progression is counted exactly if it has not met the stop.** -/
theorem lt_stepCount_iff {start stop step : Int} (moving : step ≠ 0) (steps : Nat) :
    steps < stepCount start stop step ↔
      0 < step ∧ start + steps * step < stop ∨ step < 0 ∧ stop < start + steps * step := by
  unfold stepCount
  by_cases downwards : step < 0
  · have back : (steps : Int) * step ≤ 0 :=
      Int.mul_nonpos_of_nonneg_of_nonpos (Int.natCast_nonneg steps) (Int.le_of_lt downwards)
    rw [if_pos downwards]
    by_cases before : stop < start
    · rw [if_pos before, lt_quotient_iff (by omega) (by omega), Int.mul_neg]
      omega
    · rw [if_neg before]
      omega
  · have upwards : 0 < step := by omega
    have forth : 0 ≤ (steps : Int) * step :=
      Int.mul_nonneg (Int.natCast_nonneg steps) (Int.le_of_lt upwards)
    rw [if_neg downwards]
    by_cases before : start < stop
    · rw [if_pos before, lt_quotient_iff (by omega) upwards]
      omega
    · rw [if_neg before]
      omega

theorem pairwise_lt_progression (start stop : Int) {step : Int} (upwards : 0 < step) :
    (progression start stop step).Pairwise (· < ·) := by
  refine List.pairwise_map.mpr (List.pairwise_lt_range.imp ?_)
  intro few many fewer
  have further : (few : Int) * step < many * step :=
    Int.mul_lt_mul_of_pos_right (Int.ofNat_lt.mpr fewer) upwards
  omega

theorem pairwise_gt_progression (start stop : Int) {step : Int} (downwards : step < 0) :
    (progression start stop step).Pairwise (· > ·) := by
  refine List.pairwise_map.mpr (List.pairwise_lt_range.imp ?_)
  intro few many fewer
  have further : (many : Int) * step < few * step :=
    Int.mul_lt_mul_of_neg_right (Int.ofNat_lt.mpr fewer) downwards
  omega

/-! ### The ends of a slice -/

/-- A bound brought into a sequence. A negative one counts from the end, and one beyond an end
stands for the last place that a walk with this step may come to there. -/
def adjusted (step : Int) (length : Nat) (bound : Int) : Int :=
  if bound < 0 then
    if bound + length < 0 then if step < 0 then -1 else 0 else bound + length
  else
    if length ≤ bound then if step < 0 then length - 1 else length else bound

/-- Where the progression of a slice starts. -/
def adjustedStart (slice : Slice) (length : Nat) : Int :=
  match slice.start with
  | some bound => adjusted slice.step.toInt length bound.toInt
  | none => if slice.step.toInt < 0 then length - 1 else 0

/-- What the progression of a slice stops before. -/
def adjustedStop (slice : Slice) (length : Nat) : Int :=
  match slice.stop with
  | some bound => adjusted slice.step.toInt length bound.toInt
  | none => if slice.step.toInt < 0 then -1 else length

variable {slice : Slice}

theorem adjusted_eq_place (moving : slice.step.toInt ≠ 0) (length : Nat) (bound : Int64) :
    adjusted slice.step.toInt length bound.toInt = slice.place length bound := by
  unfold adjusted place lowest
  by_cases downwards : slice.step.toInt < 0
  · have notUpwards : ¬ 0 < slice.step.toInt := by omega
    simp only [downwards, notUpwards, if_true, if_false]
    omega
  · have upwards : 0 < slice.step.toInt := by omega
    simp only [downwards, upwards, if_true, if_false]
    omega

theorem adjustedStart_eq (moving : slice.step.toInt ≠ 0) (length : Nat) :
    slice.adjustedStart length = slice.origin length := by
  unfold adjustedStart origin
  cases slice.start with
  | some bound => exact adjusted_eq_place moving length bound
  | none => grind

theorem adjustedStop_eq (moving : slice.step.toInt ≠ 0) (length : Nat) :
    slice.adjustedStop length = slice.limit length := by
  unfold adjustedStop limit
  cases slice.stop with
  | some bound => exact adjusted_eq_place moving length bound
  | none => grind

/-- **The positions of a slice are a progression** between its adjusted bounds. -/
theorem Enumerates.eq_progression {length : Nat} {positions : List Nat}
    (listed : slice.Enumerates length positions) (moving : slice.step.toInt ≠ 0) :
    positions.map Int.ofNat
      = progression (slice.adjustedStart length) (slice.adjustedStop length) slice.step.toInt := by
  rw [adjustedStart_eq moving, adjustedStop_eq moving, progression]
  apply List.ext_getElem?
  intro steps
  -- The slice visits the places that are counted, so both lists end after the same number of steps.
  have counted : steps < stepCount (slice.origin length) (slice.limit length) slice.step.toInt ↔
      slice.Visits length steps := lt_stepCount_iff moving steps
  rw [List.getElem?_map, List.getElem?_map]
  by_cases visits : slice.Visits length steps
  · obtain ⟨lower, -⟩ := visits.range
    rw [listed.taken steps visits, List.getElem?_range (counted.mpr visits)]
    exact congrArg some (Int.toNat_of_nonneg lower)
  · have behind := Nat.not_lt.mp (mt counted.mp visits)
    rw [listed.ended steps visits, List.getElem?_eq_none (by rwa [List.length_range])]
    rfl

/-- The positions of a slice that walks upwards rise. -/
theorem Enumerates.pairwise_lt {length : Nat} {positions : List Nat}
    (listed : slice.Enumerates length positions) (upwards : 0 < slice.step.toInt) :
    positions.Pairwise (· < ·) := by
  have rising := pairwise_lt_progression (slice.adjustedStart length) (slice.adjustedStop length)
    upwards
  rw [← listed.eq_progression (Int.ne_of_gt upwards), List.pairwise_map] at rising
  exact rising.imp Int.ofNat_lt.mp

/-- The positions of a slice that walks downwards fall. -/
theorem Enumerates.pairwise_gt {length : Nat} {positions : List Nat}
    (listed : slice.Enumerates length positions) (downwards : slice.step.toInt < 0) :
    positions.Pairwise (· > ·) := by
  have falling := pairwise_gt_progression (slice.adjustedStart length) (slice.adjustedStop length)
    downwards
  rw [← listed.eq_progression (Int.ne_of_lt downwards), List.pairwise_map] at falling
  exact falling.imp Int.ofNat_lt.mp

/-! ### Selections -/

/-- An index names a position exactly if it is not further from zero than the sequence is long. -/
theorem resolveIndex?_eq_some_iff_adjusted {index : Int64} {length position : Nat} :
    resolveIndex? index length = some position ↔
      (-length ≤ index.toInt ∧ index.toInt < length) ∧
        (position : Int) = if index.toInt < 0 then length + index.toInt else index.toInt := by
  rw [resolveIndex?_eq_some_iff]
  split <;> omega

/-- **The positions of a slice.** As long as no step leads beyond the numbers of 64 bits, a slice
has positions, and these are the progression between its bounds as they are adjusted to the length.
They lie in the sequence, they rise or fall with the step, and there is an element selected for each
of them. An index names a position if it reaches into the sequence from either end, and then the one
that far from there. -/
theorem positions_counted {slice : Slice} {length : Nat} (stepping : slice.step ≠ 0)
    (fits : slice.Fits length) :
    (∃ positions, slice.positions? length = some positions ∧
      positions.map Int.ofNat
        = progression (slice.adjustedStart length) (slice.adjustedStop length) slice.step.toInt ∧
      (∀ position ∈ positions, position < length) ∧
      (0 < slice.step.toInt → positions.Pairwise (· < ·)) ∧
      (slice.step.toInt < 0 → positions.Pairwise (· > ·)) ∧
      ∀ {α : Type} (elements : List α), elements.length = length →
        ∃ selected, slice.select? elements = some selected ∧
          List.Forall₂ (fun position x => elements[position]? = some x) positions selected) ∧
    ∀ (index : Int64) (position : Nat), resolveIndex? index length = some position ↔
      (-length ≤ index.toInt ∧ index.toInt < length) ∧
        (position : Int) = if index.toInt < 0 then length + index.toInt else index.toInt := by
  have moving : slice.step.toInt ≠ 0 := fun zero => stepping (Int64.toInt_inj.mp zero)
  obtain ⟨positions, found, listed⟩ := exists_positions stepping fits
  refine ⟨⟨positions, found, listed.eq_progression moving, fun _ => listed.lt_length,
    listed.pairwise_lt, listed.pairwise_gt, ?_⟩, ?_⟩
  · rintro α elements rfl
    exact ⟨_, by rw [select?, found]; rfl, forall₂_filterMap_getElem? fun _ => listed.lt_length⟩
  · exact fun index position => resolveIndex?_eq_some_iff_adjusted

/-- Every second position of six, from the last one backwards, with the stop beyond the front. -/
theorem positions_counted_backwards :
    let slice : Slice := ⟨some (-1), some (-100), -2⟩
    (slice.step ≠ 0 ∧ slice.Fits 6) ∧ slice.positions? 6 = some [5, 3, 1] ∧
      resolveIndex? (-6) 6 = some 0 := by
  intro slice
  have stepping : slice.step ≠ 0 := by decide
  have fits : slice.Fits 6 := fits_of_le (by decide)
  obtain ⟨⟨positions, found, members, -⟩, indices⟩ := positions_counted stepping fits
  have counted : progression (slice.adjustedStart 6) (slice.adjustedStop 6) slice.step.toInt
      = [5, 3, 1].map Int.ofNat := by decide
  have same : positions = [5, 3, 1] :=
    List.map_injective_iff.mpr (fun _ _ => Int.ofNat.inj) (members.trans counted)
  exact ⟨⟨stepping, fits⟩, same ▸ found, (indices (-6) 0).mpr (by decide)⟩

end Sift.Slice
