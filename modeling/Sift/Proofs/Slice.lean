/-
**Forward slices without positions.**

A slice that walks forward from bounds that are not negative selects every so many elements of a
stretch of the list. So it can be taken from the stretch alone, however long the list is.

* `Slice.everyNth_drop` — what is passed over first is dropped.
* `Slice.select_of_ascend` — the positions of a walk upwards name every so many elements.
* `Slice.select_forward` — what a forward slice selects, by its stretch.
-/

import Mathlib.Data.List.Basic
import Sift.Slice

namespace Sift.Slice

variable {α : Type}

/-! ### Every so many elements -/

/-- What is passed over first is dropped. -/
theorem everyNth_drop (step skip : Nat) (elements : List α) :
    everyNth step skip elements = everyNth step 0 (elements.drop skip) := by
  induction elements generalizing skip with
  | nil => simp [everyNth]
  | cons x rest ih =>
    cases skip with
    | zero => rfl
    | succ skip =>
      rw [everyNth, List.drop_succ_cons]
      exact ih skip

/-- Every so many elements are the first one and every so many behind it. -/
theorem everyNth_of_lt {step : Nat} (positive : 0 < step) {elements : List α} {i : Nat}
    (inside : i < elements.length) :
    everyNth step 0 (elements.drop i)
      = elements[i] :: everyNth step 0 (elements.drop (i + step)) := by
  rw [List.drop_eq_getElem_cons inside, everyNth, everyNth_drop, List.drop_drop]
  congr 3
  omega

/-! ### Walks upwards -/

/-- **The positions of a walk upwards name every so many elements** of the stretch that it walks. -/
theorem select_of_ascend {step stop i : Int} {positions : List Nat} {elements : List α}
    (walk : ascend step stop i = some positions) (positive : 0 < step) (lower : 0 ≤ i)
    (upper : stop ≤ elements.length) :
    (positions.filterMap fun position => elements[position]?)
      = everyNth step.toNat 0 ((elements.take stop.toNat).drop i.toNat) := by
  -- The position of the walk stays at least zero, so that reading it as a natural number is exact.
  fun_induction ascend step stop i generalizing positions with
  | case1 i going word ih =>
    obtain ⟨rest, following, rfl⟩ := Option.map_eq_some_iff.mp walk
    have inside : i.toNat < (elements.take stop.toNat).length := by
      rw [List.length_take]
      omega
    have here : elements[i.toNat]? = some (elements.take stop.toNat)[i.toNat] := by
      rw [List.getElem_take]
      exact List.getElem?_eq_getElem _
    have next : (i + step).toNat = i.toNat + step.toNat := by omega
    rw [everyNth_of_lt (by omega) inside, List.filterMap_cons, here]
    show _ :: _ = _
    rw [ih following (by omega), next]
  | case2 => cases walk
  | case3 i ended =>
    cases walk
    have behind : stop ≤ i := by
      by_contra inside
      exact ended ⟨positive, by omega⟩
    have nothing : (elements.take stop.toNat).drop i.toNat = [] := by
      refine List.drop_eq_nil_of_le ?_
      rw [List.length_take]
      omega
    rw [nothing]
    rfl

/-! ### Forward slices -/

/-- A slice that walks forward, from and to bounds that are not negative. -/
structure Forward (slice : Slice) : Prop where
  step : 0 < slice.step.toInt
  start : ∀ start ∈ slice.start, 0 ≤ start.toInt
  stop : ∀ stop ∈ slice.stop, 0 ≤ stop.toInt

variable {slice : Slice}

theorem Forward.isForward (forward : slice.Forward) : slice.isForward = true := by
  have zero : (0 : Int64).toInt = 0 := rfl
  have start : 0 ≤ (slice.start.getD 0).toInt := by
    cases given : slice.start with
    | none => exact Int.le_of_eq zero.symm
    | some start => exact forward.start start given
  have stop : 0 ≤ (slice.stop.getD 0).toInt := by
    cases given : slice.stop with
    | none => exact Int.le_of_eq zero.symm
    | some stop => exact forward.stop stop given
  simp [Slice.isForward, forward.step, start, stop]

theorem isForward_iff : slice.isForward = true ↔ slice.Forward := by
  refine ⟨fun forward => ?_, Forward.isForward⟩
  simp only [Slice.isForward, Bool.and_eq_true, decide_eq_true_eq] at forward
  obtain ⟨⟨step, start⟩, stop⟩ := forward
  refine ⟨step, fun bound given => ?_, fun bound given => ?_⟩
  · rwa [Option.mem_def.mp given] at start
  · rwa [Option.mem_def.mp given] at stop

theorem Forward.step_ne_zero (forward : slice.Forward) : slice.step ≠ 0 := by
  intro zero
  have positive := forward.step
  rw [zero] at positive
  exact absurd positive (by decide)

/-- The position that a forward slice starts from. -/
def first (slice : Slice) : Nat := (slice.start.getD 0).toInt.toNat

/-- How many positions a forward slice walks over at most, if it stops at all. -/
def most? (slice : Slice) : Option Nat :=
  slice.stop.map fun stop => stop.toInt.toNat - slice.first

/-- The stretch of a list that a forward slice selects from. -/
def stretch (slice : Slice) (elements : List α) : List α :=
  match slice.most? with
  | none => elements.drop slice.first
  | some most => (elements.drop slice.first).take most

theorem stretch_nil (slice : Slice) : slice.stretch ([] : List α) = [] := by
  unfold stretch
  cases slice.most? <;> simp

/-- A bound that is not negative is brought to the end of the list where it lies behind. -/
theorem bound_some {value : Int64} (positive : 0 ≤ value.toInt) (length : Nat) (default : Int) :
    bound length default 0 length (some value) = (min value.toInt.toNat length : Nat) := by
  have notNegative : ¬ value.toInt < 0 := by omega
  simp only [bound, clamp, notNegative, if_false]
  omega

theorem Forward.bounds_fst (forward : slice.Forward) (length : Nat) :
    (slice.bounds length).1 = (min slice.first length : Nat) := by
  simp only [bounds, forward.step, if_true, first]
  cases given : slice.start with
  | none => simp [bound]
  | some start => exact bound_some (forward.start start given) length 0

theorem Forward.bounds_snd (forward : slice.Forward) (length : Nat) :
    (slice.bounds length).2
      = (match slice.stop with
        | none => length
        | some stop => min stop.toInt.toNat length : Nat) := by
  simp only [bounds, forward.step, if_true]
  cases given : slice.stop with
  | none => rfl
  | some stop => exact bound_some (forward.stop stop given) length length

/-- Nothing is left of a list once all of it is dropped. -/
theorem drop_min {elements : List α} {length : Nat} (short : elements.length ≤ length) (i : Nat) :
    elements.drop (min i length) = elements.drop i := by
  rcases Nat.le_total i length with before | behind
  · rw [Nat.min_eq_left before]
  · rw [Nat.min_eq_right behind, List.drop_eq_nil_of_le short,
      List.drop_eq_nil_of_le (Nat.le_trans short behind)]

/-- **What a forward slice selects**: every so many elements of its stretch. -/
theorem select_forward (forward : slice.Forward) {elements selected : List α}
    (given : slice.select? elements = some selected) :
    selected = everyNth slice.step.toInt.toNat 0 (slice.stretch elements) := by
  obtain ⟨positions, walk, rfl⟩ := Option.map_eq_some_iff.mp given
  have start := forward.bounds_fst elements.length
  have stop := forward.bounds_snd elements.length
  have within : (slice.bounds elements.length).2 ≤ elements.length := by
    rw [stop]
    cases slice.stop with
    | none => exact Int.le_refl _
    | some stop => exact Int.ofNat_le.mpr (Nat.min_le_right _ _)
  simp only [positions?, forward.step, if_true] at walk
  rw [select_of_ascend walk forward.step (by omega) within, start, stop]
  congr 1
  unfold stretch most?
  cases slice.stop with
  | none =>
    show (elements.take elements.length).drop (min slice.first elements.length) = _
    rw [List.take_length, drop_min (Nat.le_refl _)]
    rfl
  | some stop =>
    show (elements.take (min stop.toInt.toNat elements.length)).drop
      (min slice.first elements.length) = (elements.drop _).take _
    rw [← List.take_eq_take_min, drop_min (List.length_take_le' _ _), List.drop_take]

end Sift.Slice
