/-
**Decimals as numbers.**

The number that a decimal stands for is its mantissa over a power of ten. Where two decimals can be
brought to one scale, their comparison is that of these numbers: the mantissas at a common scale are
the numbers times one and the same power of ten. Of the two decimals only the one with the smaller
scale is changed then, and it has to stay in range.

* `Decimal.number` — the number that a decimal stands for.
* `Decimal.compare_eq_number` — alignable decimals are compared as numbers.
* `Decimal.alignable_iff` — when two decimals are alignable.
* `Decimal.compare_exact` — the comparison of alignable decimals, and of whole numbers with
  decimals.
-/

import Mathlib.Algebra.Order.Field.Basic
import Mathlib.Algebra.Order.Ring.Rat
import Mathlib.Data.Set.Defs
import Mathlib.Tactic.NormNum
import Sift.Proofs.Value.Order

namespace Sift

namespace Decimal

/-- The number that a decimal stands for. -/
def number (d : Decimal) : ℚ :=
  d.mantissa / 10 ^ d.scale

theorem number_ofInt64 (n : Int64) : (ofInt64 n).number = n.toInt := by
  show (n.toInt : ℚ) / 10 ^ 0 = n.toInt
  rw [pow_zero, div_one]

/-- The mantissa at a larger scale is the number times a power of ten that depends on that scale
alone. -/
theorem scaled_eq_number {d : Decimal} {scale : Nat} (larger : d.scale ≤ scale) :
    (d.scaled scale : ℚ) = d.number * 10 ^ scale := by
  have nonzero : (10 : ℚ) ^ d.scale ≠ 0 := pow_ne_zero _ (by norm_num)
  have split : (10 : ℚ) ^ scale = 10 ^ d.scale * 10 ^ (scale - d.scale) := by
    rw [← pow_add, Nat.add_sub_of_le larger]
  rw [scaled, number, split, ← mul_assoc, div_mul_cancel₀ _ nonzero, Nat.pow_eq]
  push_cast
  rfl

/-- **Alignable decimals are compared as the numbers that they stand for.** -/
theorem compare_eq_number {a b : Decimal} (aligned : a.alignable b = true) :
    a.compare b = Ord.compare a.number b.number := by
  have left : a.scale ≤ max a.scale b.scale := Nat.le_max_left ..
  have right : b.scale ≤ max a.scale b.scale := Nat.le_max_right ..
  have unit : (0 : ℚ) < 10 ^ max a.scale b.scale := pow_pos (by norm_num) _
  calc a.compare b
      = cmp (a.scaled (max a.scale b.scale)) (b.scaled (max a.scale b.scale)) := by
        rw [compare_of_alignable aligned left right, cmp_eq_compare]
    _ = cmp (a.number * 10 ^ max a.scale b.scale) (b.number * 10 ^ max a.scale b.scale) := by
        rw [← scaled_eq_number left, ← scaled_eq_number right, Int.cast_strictMono.cmp_map_eq]
    _ = Ord.compare a.number b.number := by rw [cmp_mul_pos_right unit, cmp_eq_compare]

theorem beq_iff_number {a b : Decimal} (aligned : a.alignable b = true) :
    (a == b) = true ↔ a.number = b.number := by
  show (a.compare b == .eq) = true ↔ _
  rw [beq_iff_eq, compare_eq_number aligned, ← cmp_eq_compare, cmp_eq_eq_iff]

/-! ### Which decimals are alignable -/

theorem fits_iff {n : Int} : fits n = true ↔ -(limit : Int) ≤ n ∧ n < limit := by
  simp [fits]

theorem fits_of_natAbs {n : Int} (small : n.natAbs < limit) : fits n = true :=
  fits_iff.mpr (by omega)

/-- The powers of ten in range are those with at most 38 zeros. -/
theorem fits_pow_iff {places : Nat} : fits (10 ^ places) = true ↔ places ≤ 38 := by
  constructor
  · intro inRange
    have small : (10 : Int) ^ places < 10 ^ 39 :=
      (fits_iff.mp inRange).2.trans (by decide)
    exact Nat.le_of_lt_succ ((pow_lt_pow_iff_right₀ (by decide)).mp small)
  · intro few
    have small : 10 ^ places < limit :=
      Nat.lt_of_le_of_lt (Nat.pow_le_pow_right (by decide) few) (by decide)
    exact fits_of_natAbs (by rwa [Int.natAbs_pow])

theorem isSome_shift?_iff {mantissa : Int} {places : Nat} :
    (shift? mantissa places).isSome = true ↔
      fits (10 ^ places) = true ∧ fits (mantissa * 10 ^ places) = true := by
  have power : ((Nat.pow 10 places : Nat) : Int) = 10 ^ places := by
    rw [Nat.pow_eq]
    push_cast
    rfl
  rw [shift?, power, fits_pow_iff]
  split <;> simp_all

theorem alignable_comm (a b : Decimal) : a.alignable b = b.alignable a := by
  rw [alignable, alignable, align?_swap a b, Option.isSome_map]

/-- Two decimals are alignable if the mantissa of the smaller scale has a place at the larger
one. -/
theorem alignable_iff {a b : Decimal} (order : a.scale ≤ b.scale) :
    a.alignable b = true ↔
      fits (10 ^ (b.scale - a.scale)) = true ∧
        fits (a.mantissa * 10 ^ (b.scale - a.scale)) = true := by
  rw [← isSome_shift?_iff, alignable, align?, Nat.max_eq_right order, Nat.sub_self, shift?_zero]
  cases shift? a.mantissa (b.scale - a.scale) <;> rfl

/-- A number of 64 bits has a place among the mantissas with up to 19 zeros behind it. -/
theorem alignable_ofInt64 (n : Int64) {d : Decimal} (few : d.scale ≤ 19) :
    (ofInt64 n).alignable d = true := by
  have power : 10 ^ d.scale ≤ 10 ^ 19 := Nat.pow_le_pow_right (by decide) few
  have magnitude : n.toInt.natAbs ≤ 2 ^ 63 := by
    have := n.le_toInt
    have := n.toInt_lt
    omega
  have product : n.toInt.natAbs * 10 ^ d.scale < limit :=
    Nat.lt_of_le_of_lt (Nat.mul_le_mul magnitude power) (by decide)
  refine (alignable_iff (Nat.zero_le _)).mpr ⟨fits_pow_iff.mpr (by omega), fits_of_natAbs ?_⟩
  show (n.toInt * 10 ^ (d.scale - 0)).natAbs < limit
  rwa [Nat.sub_zero, Int.natAbs_mul, Int.natAbs_pow]

/-- A mantissa with zeros behind it, and as many more digits after the point, is the same number. -/
theorem exists_zeros {d : Decimal} {zeros : Nat} (few : zeros ≤ 38)
    (inRange : fits (d.mantissa * 10 ^ zeros) = true) :
    ∃ e, make? (d.mantissa * 10 ^ zeros) (d.scale + zeros) = some e ∧ (d == e) = true := by
  have range := fits_iff.mp inRange
  refine ⟨_, dif_pos range, ?_⟩
  have aligned :
      d.alignable ⟨d.mantissa * 10 ^ zeros, d.scale + zeros, range.1, range.2⟩ = true := by
    refine (alignable_iff (Nat.le_add_right ..)).mpr ?_
    rw [Nat.add_sub_cancel_left]
    exact ⟨fits_pow_iff.mpr few, inRange⟩
  have unit : (10 : ℚ) ^ zeros ≠ 0 := pow_ne_zero _ (by norm_num)
  rw [beq_iff_number aligned, number, number, pow_add]
  push_cast
  exact (mul_div_mul_right _ _ unit).symm

/-- Decimals that are alignable with one another are in a total order, that of their numbers. -/
theorem transCmp_of_alignable {among : Set Decimal}
    (aligned : ∀ a ∈ among, ∀ b ∈ among, a.alignable b = true) :
    Std.TransCmp (fun a b : among => a.1.compare b.1) := by
  have numbers : (fun a b : among => a.1.compare b.1) = compareOn fun a : among => a.1.number := by
    funext a b
    exact compare_eq_number (aligned a a.2 b b.2)
  rw [numbers]
  infer_instance

/-- A whole number and a decimal with few digits after the point are compared as numbers. -/
theorem compare_int_decimal (n : Int64) {d : Decimal} (few : d.scale ≤ 19) :
    (Value.int n).compare (.decimal d) = some (Ord.compare (n.toInt : ℚ) d.number) ∧
      (Value.decimal d).compare (.int n) = some (Ord.compare d.number (n.toInt : ℚ)) := by
  have aligned := alignable_ofInt64 n few
  have turned : d.alignable (ofInt64 n) = true := alignable_comm d _ ▸ aligned
  rw [Value.compare_of_number rfl rfl aligned, Value.compare_of_number rfl rfl turned,
    compare_eq_number aligned, compare_eq_number turned, number_ofInt64]
  exact ⟨rfl, rfl⟩

/-- **The comparison of decimals is exact wherever they are alignable**, and they are wherever the
mantissa of the smaller scale, and the power of ten that it is multiplied with, stay in range. So
decimals that are alignable with one another are in a total order whose ties are equal numbers, and
numbers of 64 bits are compared exactly with decimals of up to 19 digits after the point. -/
theorem compare_exact :
    (∀ a b : Decimal, a.alignable b = true → a.compare b = Ord.compare a.number b.number) ∧
    (∀ a b : Decimal, a.alignable b = b.alignable a ∧ (a.scale ≤ b.scale →
      (a.alignable b = true ↔ fits (10 ^ (b.scale - a.scale)) = true ∧
        fits (a.mantissa * 10 ^ (b.scale - a.scale)) = true))) ∧
    (∀ (n : Int64) (d : Decimal), d.scale ≤ 19 → (ofInt64 n).alignable d = true) ∧
    (∀ among : Set Decimal, (∀ a ∈ among, ∀ b ∈ among, a.alignable b = true) →
      Std.TransCmp (fun a b : among => a.1.compare b.1) ∧
        ∀ a ∈ among, ∀ b ∈ among, (a == b) = true ↔ a.number = b.number) ∧
    (∀ (d : Decimal) (zeros : Nat), zeros ≤ 38 → fits (d.mantissa * 10 ^ zeros) = true →
      ∃ e, make? (d.mantissa * 10 ^ zeros) (d.scale + zeros) = some e ∧ (d == e) = true) ∧
    ∀ (n : Int64) (d : Decimal), d.scale ≤ 19 →
      (Value.int n).compare (.decimal d) = some (Ord.compare (n.toInt : ℚ) d.number) ∧
      (Value.decimal d).compare (.int n) = some (Ord.compare d.number (n.toInt : ℚ)) := by
  refine ⟨fun a b => compare_eq_number, fun a b => ⟨alignable_comm a b, alignable_iff⟩,
    fun n d => alignable_ofInt64 n, fun among aligned => ⟨transCmp_of_alignable aligned, ?_⟩,
    fun d zeros => exists_zeros, fun n d => compare_int_decimal n⟩
  intro a inside b inside'
  exact beq_iff_number (aligned a inside b inside')

/-- The decimals with two digits after the point are in a total order, and the least number of 64
bits has a place among those with nineteen. -/
theorem compare_exact_prices :
    Std.TransCmp (fun a b : { d : Decimal | d.scale = 2 } => a.1.compare b.1) ∧
      (∃ e, make? 12300 3 = some e ∧
        ((⟨1230, 2, by decide, by decide⟩ : Decimal) == e) = true) ∧
      (Value.int Int64.minValue).compare (.decimal ⟨-1, 19, by decide, by decide⟩) = some .lt := by
  refine ⟨?_, ?_, ?_⟩
  · refine (compare_exact.2.2.2.1 { d | d.scale = 2 } fun a inside b inside' => ?_).1
    exact alignable_of_scale (inside.trans inside'.symm)
  · exact compare_exact.2.2.2.2.1 ⟨1230, 2, by decide, by decide⟩ 1 (by decide) (by decide)
  · rw [(compare_exact.2.2.2.2.2 Int64.minValue ⟨-1, 19, by decide, by decide⟩ (by decide)).1]
    have least : Int64.minValue.toInt = -2 ^ 63 := by decide
    have less : ((-2 ^ 63 : Int) : ℚ) < (-1 : Int) / 10 ^ 19 := by norm_num
    rw [least]
    exact congrArg some (compare_lt_iff_lt.mpr less)

end Decimal

end Sift
