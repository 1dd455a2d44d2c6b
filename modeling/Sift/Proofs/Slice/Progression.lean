/-
**What a slice selects, place by place.**

A slice starts at a place of the sequence and goes on in equal steps until it meets its limit
(`Slice.origin`, `Slice.limit`). What it selects is said here by those places alone
(`Slice.Selects`), with no walk: after `k` steps it is `k` steps away from the origin, and takes the
element that is there as long as it has not met the limit.

What carries the proof is the walk as a relation (`Slice.Walk`). Both directions are walks in this
sense, with another notion of not having met the limit.

* `Slice.Fits` — no place that the walk computes leaves the numbers of 64 bits.
* `Slice.select?_of_fits` — a slice that fits selects what its places say.
* `Slice.resolveIndex?_eq_some_iff` — the position that an index names.
-/

import Mathlib.Data.List.Basic
import Sift.Slice

namespace Sift.Slice

variable {α : Type}

/-! ### Places -/

/-- The lowest place that a bound may stand for: a walk downwards may end before the first
element. -/
def lowest (slice : Slice) : Int :=
  if 0 < slice.step.toInt then 0 else -1

/-- The place that a bound stands for in a sequence of this length. A negative bound counts from the
end, and one beyond an end stands for that end. -/
def place (slice : Slice) (length : Nat) (bound : Int64) : Int :=
  max slice.lowest (min (slice.lowest + length)
    (if bound.toInt < 0 then bound.toInt + length else bound.toInt))

/-- The place that a slice starts at: without a bound, the end that it goes away from. -/
def origin (slice : Slice) (length : Nat) : Int :=
  match slice.start with
  | some bound => slice.place length bound
  | none => if 0 < slice.step.toInt then 0 else length - 1

/-- The place that a slice stops before: without a bound, the end that it goes towards. -/
def limit (slice : Slice) (length : Nat) : Int :=
  match slice.stop with
  | some bound => slice.place length bound
  | none => if 0 < slice.step.toInt then length else -1

/-- The place of a slice after so many steps. -/
def placeAfter (slice : Slice) (length steps : Nat) : Int :=
  slice.origin length + steps * slice.step.toInt

/-- Whether a place lies on the way of a slice, before its limit. -/
def Before (slice : Slice) (length : Nat) (place : Int) : Prop :=
  (0 < slice.step.toInt ∧ place < slice.limit length) ∨
    (slice.step.toInt < 0 ∧ slice.limit length < place)

/-- Whether a slice takes an element after so many steps. -/
def Visits (slice : Slice) (length steps : Nat) : Prop :=
  slice.Before length (slice.placeAfter length steps)

/-- **What a slice selects**: after each number of steps the element at the place where it is then,
for as long as it has not met its limit. -/
structure Selects (slice : Slice) (elements selected : List α) : Prop where
  taken : ∀ steps, slice.Visits elements.length steps → ∃ position : Nat,
    slice.placeAfter elements.length steps = position ∧ position < elements.length ∧
      selected[steps]? = elements[position]?
  ended : ∀ steps, ¬ slice.Visits elements.length steps → selected[steps]? = none

/-- A slice selects one list of elements. -/
theorem Selects.unique {slice : Slice} {elements selected other : List α}
    (here : slice.Selects elements selected) (there : slice.Selects elements other) :
    selected = other := by
  refine List.ext_getElem? fun steps => ?_
  by_cases visits : slice.Visits elements.length steps
  · obtain ⟨position, place, -, taken⟩ := here.taken steps visits
    obtain ⟨position', place', -, taken'⟩ := there.taken steps visits
    obtain rfl : position = position' := by omega
    rw [taken, taken']
  · rw [here.ended steps visits, there.ended steps visits]

/-- Whether every place that a slice comes to is a number of 64 bits, the one at which it meets its
limit included. -/
def Fits (slice : Slice) (length : Nat) : Prop :=
  ∀ steps, slice.Visits length steps → isWord (slice.placeAfter length (steps + 1)) = true

section Places

variable {slice : Slice}

/-- A bound that is given is brought to its place. -/
theorem bound_eq_place {length : Nat} {lower upper : Int} (lowest : lower = slice.lowest)
    (highest : upper = slice.lowest + length) (default : Int) (value : Int64) :
    bound length default lower upper (some value) = slice.place length value := by
  subst lowest highest
  simp only [bound, clamp, place]
  split <;> rfl

/-- **The bounds of a walk are the origin and the limit.** -/
theorem bounds_eq (slice : Slice) (length : Nat) :
    slice.bounds length = (slice.origin length, slice.limit length) := by
  unfold bounds origin limit
  by_cases upwards : 0 < slice.step.toInt
  · have lowest : 0 = slice.lowest := (if_pos upwards).symm
    have highest : (length : Int) = slice.lowest + length := by omega
    simp only [upwards, if_true]
    refine Prod.ext ?_ ?_
    · cases slice.start with
      | none => rfl
      | some value => exact bound_eq_place lowest highest 0 value
    · cases slice.stop with
      | none => rfl
      | some value => exact bound_eq_place lowest highest length value
  · have lowest : -1 = slice.lowest := (if_neg upwards).symm
    have highest : (length : Int) - 1 = slice.lowest + length := by omega
    simp only [upwards, if_false]
    refine Prod.ext ?_ ?_
    · cases slice.start with
      | none => rfl
      | some value => exact bound_eq_place lowest highest (length - 1) value
    · cases slice.stop with
      | none => rfl
      | some value => exact bound_eq_place lowest highest (-1) value

theorem place_bounds (slice : Slice) (length : Nat) (bound : Int64) :
    slice.lowest ≤ slice.place length bound ∧
      slice.place length bound ≤ slice.lowest + length := by
  unfold place
  omega

theorem origin_bounds (slice : Slice) (length : Nat) :
    slice.lowest ≤ slice.origin length ∧ slice.origin length ≤ slice.lowest + length := by
  unfold origin
  cases slice.start with
  | some bound => exact slice.place_bounds length bound
  | none =>
    simp only [lowest]
    split <;> omega

theorem limit_bounds (slice : Slice) (length : Nat) :
    slice.lowest ≤ slice.limit length ∧ slice.limit length ≤ slice.lowest + length := by
  unfold limit
  cases slice.stop with
  | some bound => exact slice.place_bounds length bound
  | none =>
    simp only [lowest]
    split <;> omega

/-- **Where a slice takes an element, there is one.** -/
theorem Visits.range {length steps : Nat} (visits : slice.Visits length steps) :
    0 ≤ slice.placeAfter length steps ∧ slice.placeAfter length steps < length := by
  have origin := slice.origin_bounds length
  have limit := slice.limit_bounds length
  unfold Visits Before placeAfter at visits
  unfold lowest at origin limit
  unfold placeAfter
  rcases visits with ⟨upwards, before⟩ | ⟨downwards, before⟩
  · have forth : 0 ≤ (steps : Int) * slice.step.toInt :=
      Int.mul_nonneg (Int.natCast_nonneg steps) (Int.le_of_lt upwards)
    simp only [upwards, if_true] at origin limit
    omega
  · have back : (steps : Int) * slice.step.toInt ≤ 0 :=
      Int.mul_nonpos_of_nonneg_of_nonpos (Int.natCast_nonneg steps) (Int.le_of_lt downwards)
    have notUpwards : ¬ 0 < slice.step.toInt := Int.not_lt.mpr (Int.le_of_lt downwards)
    simp only [notUpwards, if_false] at origin limit
    omega

/-- One step more is one step further. -/
theorem placeAfter_succ (slice : Slice) (length steps : Nat) :
    slice.placeAfter length (steps + 1) = slice.placeAfter length steps + slice.step.toInt := by
  rw [placeAfter, placeAfter, Int.natCast_succ, Int.add_mul, Int.one_mul, Int.add_assoc]

/-- **A slice fits** unless its step leads from the last place beyond the numbers of 64 bits. -/
theorem fits_of_le {length : Nat} (short : length + slice.step.toInt ≤ Int64.maxValue.toInt + 1) :
    slice.Fits length := by
  intro steps visits
  have range := visits.range
  have lower : Int64.minValue.toInt ≤ slice.step.toInt := slice.step.minValue_le_toInt
  simp only [isWord, placeAfter_succ, Bool.and_eq_true, decide_eq_true_eq]
  omega

end Places

/-! ### Walks -/

/-- **A walk in equal steps**, with the positions that it comes to as long as it is going. -/
inductive Walk (step : Int) (going : Int → Prop) : Int → List Nat → Prop
  | ended {i : Int} (arrived : ¬ going i) : Walk step going i []
  | step {i : Int} {rest : List Nat} (here : going i) (further : Walk step going (i + step) rest) :
    Walk step going i (i.toNat :: rest)

namespace Walk

variable {step stop i : Int} {going : Int → Prop} {positions : List Nat}

/-- One step more from here is a step from the next place. -/
theorem place_succ (i step : Int) (steps : Nat) :
    i + step + steps * step = i + (steps + 1 : Nat) * step := by
  rw [Int.natCast_succ, Int.add_mul, Int.one_mul]
  omega

/-- A walk upwards, where all places that it computes are numbers of 64 bits. -/
theorem exists_ascend (positive : 0 < step)
    (fits : ∀ steps : Nat, i + steps * step < stop → isWord (i + (steps + 1 : Nat) * step) = true) :
    ∃ positions, ascend step stop i = some positions ∧ Walk step (· < stop) i positions := by
  fun_induction ascend step stop i with
  | case1 i going word ih =>
    obtain ⟨rest, run, further⟩ := ih fun steps before => by
      rw [place_succ] at before ⊢
      exact fits (steps + 1) before
    exact ⟨_, by rw [run]; rfl, .step going.2 further⟩
  | case2 i going beyond =>
    have word := fits 0 (by simpa using going.2)
    rw [← place_succ, Int.natCast_zero, Int.zero_mul, Int.add_zero] at word
    exact absurd word beyond
  | case3 i ended => exact ⟨[], rfl, .ended fun before => ended ⟨positive, before⟩⟩

/-- A walk downwards, where all places that it computes are numbers of 64 bits. -/
theorem exists_descend (negative : step < 0)
    (fits : ∀ steps : Nat, stop < i + steps * step → isWord (i + (steps + 1 : Nat) * step) = true) :
    ∃ positions, descend step stop i = some positions ∧ Walk step (stop < ·) i positions := by
  fun_induction descend step stop i with
  | case1 i going word ih =>
    obtain ⟨rest, run, further⟩ := ih fun steps before => by
      rw [place_succ] at before ⊢
      exact fits (steps + 1) before
    exact ⟨_, by rw [run]; rfl, .step going.2 further⟩
  | case2 i going beyond =>
    have word := fits 0 (by simpa using going.2)
    rw [← place_succ, Int.natCast_zero, Int.zero_mul, Int.add_zero] at word
    exact absurd word beyond
  | case3 i ended => exact ⟨[], rfl, .ended fun before => ended ⟨negative, before⟩⟩

/-- A walk that has met its limit does not come back from it. -/
theorem arrived_add (stays : ∀ place, ¬ going place → ¬ going (place + step))
    (arrived : ¬ going i) (steps : Nat) : ¬ going (i + steps * step) := by
  induction steps with
  | zero => simpa using arrived
  | succ steps ih =>
    have next := stays _ ih
    rwa [show i + steps * step + step = i + step + steps * step by omega, place_succ] at next

/-- **The positions of a walk** are its places, each so many steps away, up to the limit. -/
theorem getElem?_positions (walk : Walk step going i positions)
    (stays : ∀ place, ¬ going place → ¬ going (place + step)) (steps : Nat) :
    (going (i + steps * step) → positions[steps]? = some (i + steps * step).toNat) ∧
      (¬ going (i + steps * step) → positions[steps]? = none) := by
  induction walk generalizing steps with
  | ended arrived =>
    exact ⟨fun going => absurd going (arrived_add stays arrived steps), fun _ => rfl⟩
  | @step i rest here _ ih =>
    cases steps with
    | zero =>
      rw [Int.natCast_zero, Int.zero_mul, Int.add_zero]
      exact ⟨fun _ => rfl, fun arrived => absurd here arrived⟩
    | succ steps =>
      rw [← place_succ]
      exact ih steps

end Walk

/-! ### Selections -/

/-- Where everything that is looked up is there, each look-up has its result. -/
theorem forall₂_filterMap_getElem? {elements : List α} {positions : List Nat}
    (inside : ∀ position ∈ positions, position < elements.length) :
    List.Forall₂ (fun position x => elements[position]? = some x) positions
      (positions.filterMap fun position => elements[position]?) := by
  induction positions with
  | nil => exact .nil
  | cons first rest ih =>
    have here : elements[first]? = some _ :=
      List.getElem?_eq_getElem (inside first List.mem_cons_self)
    rw [List.filterMap_cons, here]
    exact .cons here (ih fun position member => inside position (.tail _ member))

/-- The results of look-ups are in the places of what is looked up. -/
theorem getElem?_of_forall₂ {positions : List Nat} {elements selected : List α}
    (each : List.Forall₂ (fun position x => elements[position]? = some x) positions selected)
    (steps : Nat) :
    selected[steps]? = positions[steps]?.bind fun position => elements[position]? := by
  induction each generalizing steps with
  | nil => rfl
  | cons here _ ih =>
    cases steps with
    | zero => exact here.symm
    | succ steps => exact ih steps

variable {slice : Slice}

/-- The walk of a slice that fits. -/
theorem exists_walk {length : Nat} (stepping : slice.step ≠ 0) (fits : slice.Fits length) :
    ∃ positions, slice.positions? length = some positions ∧
      Walk slice.step.toInt (slice.Before length) (slice.origin length) positions := by
  have moving : slice.step.toInt ≠ 0 := fun zero => stepping (Int64.toInt_inj.mp zero)
  unfold positions?
  rw [bounds_eq]
  by_cases upwards : 0 < slice.step.toInt
  · have same : slice.Before length = (· < slice.limit length) := by
      funext place
      simp only [Before, eq_iff_iff]
      omega
    rw [same]
    simp only [upwards, if_true]
    refine Walk.exists_ascend upwards fun steps before => ?_
    exact fits steps (.inl ⟨upwards, before⟩)
  · have downwards : slice.step.toInt < 0 := by omega
    have same : slice.Before length = (slice.limit length < ·) := by
      funext place
      simp only [Before, eq_iff_iff]
      omega
    rw [same]
    simp only [upwards, if_false]
    refine Walk.exists_descend downwards fun steps before => ?_
    exact fits steps (.inr ⟨downwards, before⟩)

/-- The positions that a slice comes to, one after each number of steps until it meets its limit. -/
structure Enumerates (slice : Slice) (length : Nat) (positions : List Nat) : Prop where
  taken : ∀ steps, slice.Visits length steps →
    positions[steps]? = some (slice.placeAfter length steps).toNat
  ended : ∀ steps, ¬ slice.Visits length steps → positions[steps]? = none

/-- **The positions of a slice that fits** are the ones that it comes to. -/
theorem exists_positions {length : Nat} (stepping : slice.step ≠ 0) (fits : slice.Fits length) :
    ∃ positions, slice.positions? length = some positions ∧
      slice.Enumerates length positions := by
  obtain ⟨positions, found, walk⟩ := exists_walk stepping fits
  have stays : ∀ place, ¬ slice.Before length place →
      ¬ slice.Before length (place + slice.step.toInt) := by
    intro place arrived
    unfold Before at *
    omega
  have each := walk.getElem?_positions stays
  exact ⟨positions, found, fun steps => (each steps).1, fun steps => (each steps).2⟩

/-- The positions of a slice are places of it, and lie in the sequence. -/
theorem Enumerates.exists_steps {length position : Nat} {positions : List Nat}
    (listed : slice.Enumerates length positions) (member : position ∈ positions) :
    ∃ steps, slice.Visits length steps ∧ slice.placeAfter length steps = position ∧
      position < length := by
  obtain ⟨steps, here⟩ := List.getElem?_of_mem member
  by_cases visits : slice.Visits length steps
  · have same := Option.some.inj (here.symm.trans (listed.taken steps visits))
    have range := visits.range
    exact ⟨steps, visits, by omega, by omega⟩
  · exact nomatch here.symm.trans (listed.ended steps visits)

/-- A position that a slice comes to lies in the sequence. -/
theorem Enumerates.lt_length {length position : Nat} {positions : List Nat}
    (listed : slice.Enumerates length positions) (member : position ∈ positions) :
    position < length := by
  obtain ⟨-, -, -, below⟩ := listed.exists_steps member
  exact below

/-- **A slice that fits selects what its places say.** -/
theorem select?_of_fits {elements : List α} (stepping : slice.step ≠ 0)
    (fits : slice.Fits elements.length) :
    ∃ selected, slice.select? elements = some selected ∧ slice.Selects elements selected := by
  obtain ⟨positions, found, listed⟩ := exists_positions stepping fits
  have each := forall₂_filterMap_getElem? fun _ => listed.lt_length
  refine ⟨_, by rw [select?, found]; rfl, fun steps visits => ?_, fun steps arrived => ?_⟩
  · obtain ⟨lower, upper⟩ := visits.range
    refine ⟨_, (Int.toNat_of_nonneg lower).symm, by omega, ?_⟩
    rw [getElem?_of_forall₂ each, listed.taken steps visits]
    rfl
  · rw [getElem?_of_forall₂ each, listed.ended steps arrived]
    rfl

/-- Nothing is selected from no elements. -/
theorem select?_nil (stepping : slice.step ≠ 0) :
    slice.select? ([] : List α) = some [] := by
  have never : ∀ steps, ¬ slice.Visits ([] : List α).length steps := by
    intro steps visits
    have range := visits.range
    rw [List.length_nil] at range
    omega
  obtain ⟨selected, found, selects⟩ :=
    select?_of_fits stepping fun steps visits => absurd visits (never steps)
  have short : selected.length ≤ 0 := List.getElem?_eq_none_iff.mp (selects.ended 0 (never 0))
  rw [found, List.length_eq_zero_iff.mp (Nat.le_zero.mp short)]

/-! ### Indices -/

/-- **The position that an index names**: its own, or the one that far from the end. -/
theorem resolveIndex?_eq_some_iff {index : Int64} {length position : Nat} :
    resolveIndex? index length = some position ↔
      position < length ∧ (index.toInt = position ∨
        index.toInt < 0 ∧ index.toInt + length = position) := by
  unfold resolveIndex?
  simp only [Option.ite_none_right_eq_some, Bool.and_eq_true, decide_eq_true_eq, Option.some.injEq]
  split <;> omega

/-- An index names no position beyond an end. -/
theorem resolveIndex?_eq_none_iff {index : Int64} {length : Nat} :
    resolveIndex? index length = none ↔ index.toInt < -length ∨ length ≤ index.toInt := by
  unfold resolveIndex?
  simp only [ite_eq_right_iff, Bool.and_eq_true, decide_eq_true_eq, reduceCtorEq, imp_false]
  split <;> omega

end Sift.Slice
