/-
**Slices at the limits of 64 bits.**

A slice computes with signed numbers of 64 bits, and its bounds and its step may be any of them. Its
bounds are brought into the sequence before the walk, so what is computed from them is never out of
range. The walk computes one place more than it visits, and only this one can be.

The bounds of a range are unsigned, and their bits are read as signed. So a bound beyond the largest
signed number counts from the end.

* `Slice.exists_positions_iff` — a slice has positions exactly if it fits.
* `Slice.fits_iff` — it fits unless a step upwards leads beyond the largest number.
* `Slice.positions_overflow_iff` — what is computed for a slice, and when it is out of range.
* `Slice.positions_ofRange` — the positions of a range.
-/

import Mathlib.Data.List.Sort
import Sift.Proofs.Slice.Counting

namespace Sift.Slice

variable {slice : Slice} {length : Nat}

/-! ### Walks out of range -/

/-- A walk upwards that comes to its end has computed numbers of 64 bits only. -/
theorem isWord_of_ascend {step stop i : Int} {positions : List Nat} (positive : 0 < step)
    (walk : ascend step stop i = some positions) (steps : Nat) (before : i + steps * step < stop) :
    isWord (i + (steps + 1 : Nat) * step) = true := by
  fun_induction ascend step stop i generalizing positions steps with
  | case1 i going word ih =>
    obtain ⟨rest, following, -⟩ := Option.map_eq_some_iff.mp walk
    cases steps with
    | zero => simpa using word
    | succ steps =>
      rw [← Walk.place_succ] at before ⊢
      exact ih following steps before
  | case2 => cases walk
  | case3 i ended =>
    have forth : 0 ≤ (steps : Int) * step :=
      Int.mul_nonneg (Int.natCast_nonneg steps) (Int.le_of_lt positive)
    exact absurd ⟨positive, by omega⟩ ended

/-- The place after a visited one is a number of 64 bits unless it is beyond the largest. -/
theorem Visits.isWord_succ {steps : Nat} (visits : slice.Visits length steps) :
    isWord (slice.placeAfter length (steps + 1)) = true ↔
      slice.placeAfter length (steps + 1) ≤ Int64.maxValue.toInt := by
  have range := visits.range
  have lower : Int64.minValue.toInt ≤ slice.step.toInt := slice.step.minValue_le_toInt
  simp only [isWord, placeAfter_succ, Bool.and_eq_true, decide_eq_true_eq]
  omega

/-- **A slice fits** unless a step leads beyond the largest number. -/
theorem fits_iff : slice.Fits length ↔ ∀ steps, slice.Visits length steps →
    slice.placeAfter length (steps + 1) ≤ Int64.maxValue.toInt :=
  forall₂_congr fun _ visits => visits.isWord_succ

/-- A slice that walks downwards fits. -/
theorem fits_of_neg (downwards : slice.step.toInt < 0)
    (short : length ≤ Int64.maxValue.toInt) : slice.Fits length := by
  refine fits_iff.mpr fun steps visits => ?_
  have range := visits.range
  rw [placeAfter_succ]
  omega

/-- **A slice has positions exactly if it fits.** -/
theorem exists_positions_iff (stepping : slice.step ≠ 0)
    (short : length ≤ Int64.maxValue.toInt) :
    (∃ positions, slice.positions? length = some positions) ↔ slice.Fits length := by
  constructor
  · rintro ⟨positions, found⟩
    by_cases upwards : 0 < slice.step.toInt
    · simp only [positions?, bounds_eq, upwards, if_true] at found
      intro steps visits
      refine isWord_of_ascend upwards found steps ?_
      unfold Visits Before at visits
      exact visits.elim And.right fun downwards => absurd downwards.1 (by omega)
    · have moving : slice.step.toInt ≠ 0 := fun zero => stepping (Int64.toInt_inj.mp zero)
      exact fits_of_neg (by omega) short
  · intro fits
    obtain ⟨positions, found, -⟩ := exists_positions stepping fits
    exact ⟨positions, found⟩

/-- A slice visits no more places than the sequence has. -/
theorem Visits.lt_length {steps : Nat} (visits : slice.Visits length steps) : steps < length := by
  have origin := slice.origin_bounds length
  have range := visits.range
  unfold Visits Before at visits
  unfold lowest at origin
  unfold placeAfter at range
  rcases visits with ⟨upwards, -⟩ | ⟨downwards, -⟩
  · have forth : (steps : Int) * 1 ≤ steps * slice.step.toInt :=
      Int.mul_le_mul_of_nonneg_left upwards (Int.natCast_nonneg steps)
    simp only [upwards, if_true] at origin
    omega
  · have back : (steps : Int) * slice.step.toInt ≤ steps * -1 :=
      Int.mul_le_mul_of_nonneg_left (by omega) (Int.natCast_nonneg steps)
    have notUpwards : ¬ 0 < slice.step.toInt := by omega
    simp only [notUpwards, if_false] at origin
    omega

theorem Enumerates.length_le {positions : List Nat} (listed : slice.Enumerates length positions) :
    positions.length ≤ length := by
  by_contra longer
  have visits : slice.Visits length length := by
    by_contra arrived
    have short := List.getElem?_eq_none_iff.mp (listed.ended length arrived)
    omega
  exact Nat.lt_irrefl length visits.lt_length

/-- **What is computed for a slice, and when it is out of range.** The bounds, counted from the end
where they are negative and then brought into the sequence, are numbers of 64 bits, and so is every
place that is visited. There are no more of these than the sequence has elements. A place computed
beyond the last of them is out of range exactly if it is beyond the largest number, and exactly then
there are no positions. That is no matter of slices that walk downwards, or whose step is not longer
than what is left above the sequence. -/
theorem positions_overflow_iff (stepping : slice.step ≠ 0) (short : length ≤ Int64.maxValue.toInt) :
    (isWord (length - 1) = true ∧
      (∀ bound : Int64, bound.toInt < 0 → isWord (bound.toInt + length) = true) ∧
      isWord (slice.bounds length).1 = true ∧ isWord (slice.bounds length).2 = true) ∧
    (∀ steps, slice.Visits length steps →
      steps < length ∧ isWord (slice.placeAfter length steps) = true) ∧
    (slice.positions? length = none ↔ ∃ steps, slice.Visits length steps ∧
      Int64.maxValue.toInt < slice.placeAfter length (steps + 1)) ∧
    (∀ positions, slice.positions? length = some positions → positions.length ≤ length) ∧
    (slice.step.toInt < 0 ∨ length + slice.step.toInt ≤ Int64.maxValue.toInt + 1 →
      ∃ positions, slice.positions? length = some positions) := by
  have least : Int64.minValue.toInt = -9223372036854775808 := rfl
  have largest : Int64.maxValue.toInt = 9223372036854775807 := rfl
  have word {n : Int} (lower : -1 ≤ n) (upper : n ≤ length) : isWord n = true := by
    simp only [isWord, Bool.and_eq_true, decide_eq_true_eq]
    omega
  have within {n : Int} (range : slice.lowest ≤ n ∧ n ≤ slice.lowest + length) :
      isWord n = true := by
    unfold lowest at range
    split at range
    · exact word (by omega) (by omega)
    · exact word (by omega) (by omega)
  refine ⟨⟨word (by omega) (by omega), ?_, ?_, ?_⟩, ?_, ?_, ?_, ?_⟩
  · intro bound negative
    have lower := bound.minValue_le_toInt
    simp only [isWord, Bool.and_eq_true, decide_eq_true_eq]
    omega
  · rw [bounds_eq]
    exact within (slice.origin_bounds length)
  · rw [bounds_eq]
    exact within (slice.limit_bounds length)
  · intro steps visits
    have range := visits.range
    exact ⟨visits.lt_length, word (by omega) (by omega)⟩
  · have fitting := (exists_positions_iff stepping short).trans fits_iff
    rw [Option.eq_none_iff_forall_ne_some, ← not_exists, fitting]
    simp only [not_forall, Int.not_le, exists_prop]
  · intro positions found
    have fits := (exists_positions_iff stepping short).mp ⟨positions, found⟩
    obtain ⟨same, foundSame, listed⟩ := exists_positions stepping fits
    cases foundSame.symm.trans found
    exact listed.length_le
  · intro reach
    refine (exists_positions_iff stepping short).mpr ?_
    rcases reach with downwards | reach
    · exact fits_of_neg downwards short
    · exact fits_of_le reach

/-- The longest step downwards leads out of the sequence, but not out of range. -/
theorem positions_overflow_iff_downwards :
    let slice : Slice := ⟨none, none, Int64.minValue⟩
    (slice.step ≠ 0 ∧ (3 : Nat) ≤ Int64.maxValue.toInt) ∧
      ∃ positions, slice.positions? 3 = some positions ∧ positions.length ≤ 3 := by
  intro slice
  have stepping : slice.step ≠ 0 := by decide
  have short : (3 : Nat) ≤ Int64.maxValue.toInt := by decide
  obtain ⟨-, -, -, few, reached⟩ := positions_overflow_iff stepping short
  obtain ⟨positions, found⟩ := reached (.inl (by decide))
  exact ⟨⟨stepping, short⟩, positions, found, few positions found⟩

/-- **A step can lead out of range.** The second of two elements is visited, and from there the
longest step upwards leads beyond the largest number, so that there are no positions at all. -/
theorem positions_overflow_second :
    let slice : Slice := ⟨some 1, none, Int64.maxValue⟩
    (slice.step ≠ 0 ∧ (2 : Nat) ≤ Int64.maxValue.toInt) ∧ slice.Visits 2 0 ∧
      isWord (slice.placeAfter 2 1) = false ∧ slice.positions? 2 = none := by
  intro slice
  have stepping : slice.step ≠ 0 := by decide
  have short : (2 : Nat) ≤ Int64.maxValue.toInt := by decide
  have visits : slice.Visits 2 0 := .inl (by decide)
  have beyond : isWord (slice.placeAfter 2 1) = false := by decide
  refine ⟨⟨stepping, short⟩, visits, beyond, ?_⟩
  refine Option.eq_none_iff_forall_ne_some.mpr fun positions found => ?_
  have fits := (exists_positions_iff stepping short).mp ⟨positions, found⟩
  exact absurd (fits 0 visits) (by rw [beyond]; decide)

/-! ### Ranges -/

/-- The place that the bits of an unsigned bound stand for. A bound beyond the largest signed number
stands for the place as far before the end as it is below the number of all words, or for the first
place if there are not so many. -/
def unsignedPlace (length : Nat) (bound : UInt64) : Nat :=
  if bound.toNat ≤ Int64.maxValue.toInt then bound.toNat else bound.toNat + length - UInt64.size

theorem toInt_ofNat_toNat (bound : UInt64) : (Int64.ofNat bound.toNat).toInt
    = if bound.toNat ≤ Int64.maxValue.toInt then (bound.toNat : Int)
      else bound.toNat - UInt64.size := by
  have below : bound.toNat < UInt64.size := bound.toNat_lt
  have size : Int64.size = 18446744073709551616 := rfl
  have words : UInt64.size = 18446744073709551616 := rfl
  have largest : Int64.maxValue.toInt = 9223372036854775807 := rfl
  rw [Int64.toInt_ofNat', size, Int.bmod_def]
  split <;> split <;> omega

/-- A slice that goes on by one selects all positions from its origin to before its limit. -/
theorem Enumerates.mem_iff_of_one {positions : List Nat}
    (listed : slice.Enumerates length positions) (single : slice.step.toInt = 1) (i : Nat) :
    i ∈ positions ↔ slice.origin length ≤ i ∧ i < slice.limit length := by
  have visits_iff (steps : Nat) :
      slice.Visits length steps ↔ slice.origin length + steps < slice.limit length := by
    unfold Visits Before placeAfter
    rw [single]
    omega
  constructor
  · intro member
    obtain ⟨steps, visits, here, -⟩ := listed.exists_steps member
    rw [visits_iff] at visits
    rw [placeAfter, single] at here
    omega
  · rintro ⟨lower, upper⟩
    have visits := (visits_iff (i - slice.origin length).toNat).mpr (by omega)
    refine List.mem_of_getElem? ((listed.taken _ visits).trans (congrArg some ?_))
    rw [placeAfter, single]
    omega

/-- The slice of a range, from the bounds that it has. -/
def ofBounds (start stop : Option UInt64) : Slice :=
  ofRange (start.map UInt64.toNat) (stop.map UInt64.toNat)

/-- Whether a position is at or after the start and before the stop, as far as there are any. -/
def between (start stop : Option Nat) (i : Nat) : Bool :=
  start.all (· ≤ i) && stop.all (i < ·)

theorem place_ofNat {slice : Slice} (single : slice.step.toInt = 1) (length : Nat)
    (bound : UInt64) : slice.place length (.ofNat bound.toNat)
      = (min length (unsignedPlace length bound) : Nat) := by
  have below : bound.toNat < UInt64.size := bound.toNat_lt
  simp only [place, lowest, single, toInt_ofNat_toNat, unsignedPlace]
  split <;> split <;> omega

/-- A position in the sequence lies between the origin and the limit of a range if it does so with
the places that its bounds stand for. -/
theorem between_iff (start stop : Option UInt64) {i : Nat} (below : i < length) :
    ((ofBounds start stop).origin length ≤ i ∧ i < (ofBounds start stop).limit length) ↔
      between (start.map (unsignedPlace length)) (stop.map (unsignedPlace length)) i = true := by
  have single : (ofBounds start stop).step.toInt = 1 := rfl
  rw [between, Bool.and_eq_true]
  refine and_congr ?_ ?_
  · cases start with
    | none => simp [origin, ofBounds, ofRange]
    | some bound =>
      have place := place_ofNat single length bound
      simp only [origin, ofBounds, ofRange, Option.map_some, Option.all_some] at place ⊢
      rw [place, decide_eq_true_eq]
      omega
  · cases stop with
    | none => simpa [limit, ofBounds, ofRange] using below
    | some bound =>
      have place := place_ofNat single length bound
      simp only [limit, ofBounds, ofRange, Option.map_some, Option.all_some] at place ⊢
      rw [place, decide_eq_true_eq]
      omega

/-- **The positions of a range** are those between the places that its bounds stand for, in
increasing order. Bounds up to the largest signed number stand for themselves, so that these are the
positions between them. -/
theorem positions_ofRange (start stop : Option UInt64) (short : length ≤ Int64.maxValue.toInt) :
    (ofBounds start stop).positions? length = some ((List.range length).filter
      (between (start.map (unsignedPlace length)) (stop.map (unsignedPlace length)))) ∧
    ((∀ bound ∈ start, bound.toNat ≤ Int64.maxValue.toInt) →
      (∀ bound ∈ stop, bound.toNat ≤ Int64.maxValue.toInt) →
      (ofBounds start stop).positions? length = some ((List.range length).filter
        (between (start.map UInt64.toNat) (stop.map UInt64.toNat)))) := by
  have single : (ofBounds start stop).step.toInt = 1 := rfl
  have stepping : (ofBounds start stop).step ≠ 0 := show (1 : Int64) ≠ 0 by decide
  have fits : (ofBounds start stop).Fits length := fits_of_le (by rw [single]; omega)
  obtain ⟨positions, found, listed⟩ := exists_positions stepping fits
  have same : positions = (List.range length).filter
      (between (start.map (unsignedPlace length)) (stop.map (unsignedPlace length))) := by
    refine List.Pairwise.eq_of_mem_iff (listed.pairwise_lt (by rw [single]; decide))
      (List.pairwise_lt_range.filter _) fun i => ?_
    rw [listed.mem_iff_of_one single, List.mem_filter, List.mem_range]
    have limit := (ofBounds start stop).limit_bounds length
    simp only [lowest, single] at limit
    constructor
    · intro inside
      have below : i < length := by omega
      exact ⟨below, (between_iff start stop below).mp inside⟩
    · rintro ⟨below, inside⟩
      exact (between_iff start stop below).mpr inside
  refine ⟨same ▸ found, fun narrowStart narrowStop => ?_⟩
  have itself : ∀ bound : UInt64, bound.toNat ≤ Int64.maxValue.toInt →
      unsignedPlace length bound = bound.toNat := fun _ narrow => if_pos narrow
  rw [found, same, Option.map_congr fun bound given => itself bound (narrowStart bound given),
    Option.map_congr fun bound given => itself bound (narrowStop bound given)]

/-- A range that goes on behind the end of the sequence is cut there. -/
theorem positions_ofRange_cut :
    (6 : Nat) ≤ Int64.maxValue.toInt ∧
      (ofBounds (some 4) (some 100)).positions? 6 = some [4, 5] := by
  have short : (6 : Nat) ≤ Int64.maxValue.toInt := by decide
  obtain ⟨-, narrow⟩ := positions_ofRange (some 4) (some 100) short
  refine ⟨short, narrow ?_ ?_⟩
  · rintro bound ⟨⟩
    decide
  · rintro bound ⟨⟩
    decide

/-- **The widest ranges lose their meaning.** A range up to the largest unsigned number leaves out
the last position, and one from there on takes it. -/
theorem positions_ofRange_widest :
    (ofRange none (some 18446744073709551615)).positions? 3 = some [0, 1] ∧
      (List.range 3).filter (between none (some 18446744073709551615)) = [0, 1, 2] ∧
      (ofRange (some 18446744073709551615) none).positions? 3 = some [2] ∧
      (List.range 3).filter (between (some 18446744073709551615) none) = [] := by
  exact ⟨by decide +kernel, by decide, by decide +kernel, by decide⟩

end Sift.Slice
