/-
**The order of decimals.**

* `Decimal.compare_swap` — turning two decimals around turns their order around, whether they are
  compared by their mantissas or as floats.
* `Decimal.compare_of_alignable` — where two decimals can be brought to one scale, their order is
  that of the mantissas at any common scale.
* `Decimal.compare_chained` — such orders agree with one another, which those of floats need not do:
  two different mantissas may have the same nearest float.
-/

import Mathlib.Algebra.Order.Ring.Int
import Mathlib.Algebra.Order.Ring.Unbundled.Basic
import Sift.Proofs.Chained
import Sift.Decimal

namespace Sift

/-! ### Floats -/

section Floats

open Float.Model (UnpackedFloat)

/-- The order of two finite magnitudes: by exponent and then by mantissa. -/
theorem magnitude_swap (e f : Int) (m n : Nat) :
    (Ord.compare e f).then (Ord.compare m n)
      = ((Ord.compare f e).then (Ord.compare n m)).swap := by
  rw [Ordering.swap_then, ← Std.OrientedCmp.eq_swap, ← Std.OrientedCmp.eq_swap]

/-- Floats that are compared the other way round have the opposite order, if they have one. -/
theorem unpacked_compare_swap (a b : UnpackedFloat) :
    a.compare b = (b.compare a).map Ordering.swap := by
  rcases a with (_ | _) | _ | _ | ⟨_ | _, m, e, _⟩ <;>
    rcases b with (_ | _) | _ | _ | ⟨_ | _, n, f, _⟩
  -- Only the two cases of finite floats of one sign look at more than the constructors.
  case finite.negative.finite.negative =>
    exact congrArg (fun order => some order.swap) (magnitude_swap e f m n)
  case finite.positive.finite.positive =>
    exact congrArg some (magnitude_swap e f m n)
  all_goals rfl

theorem float_lt_iff (a b : Float) :
    a < b ↔ a.toModel.unpack.compare b.toModel.unpack = some .lt := by
  have model : a < b ↔ a.toModel.unpack.lt b.toModel.unpack = true := decide_eq_true_iff
  rw [model, UnpackedFloat.lt, beq_iff_eq]

end Floats

namespace Decimal

theorem compareFloats_swap (a b : Float) : compareFloats a b = (compareFloats b a).swap := by
  have turned := unpacked_compare_swap a.toModel.unpack b.toModel.unpack
  simp only [compareFloats, float_lt_iff]
  rw [turned]
  rcases b.toModel.unpack.compare a.toModel.unpack with _ | _ | _ | _ <;> rfl

/-! ### Alignment -/

/-- The mantissa that a decimal has at a larger scale. -/
def scaled (d : Decimal) (scale : Nat) : Int :=
  d.mantissa * Nat.pow 10 (scale - d.scale)

/-- Whether two decimals can be brought to one scale. -/
def alignable (a b : Decimal) : Bool :=
  (a.align? b).isSome

theorem align?_swap (a b : Decimal) : b.align? a = (a.align? b).map Prod.swap := by
  simp only [align?, Nat.max_comm b.scale]
  cases shift? a.mantissa (max a.scale b.scale - a.scale) <;>
    cases shift? b.mantissa (max a.scale b.scale - b.scale) <;> rfl

theorem shift?_zero (d : Decimal) : shift? d.mantissa 0 = some d.mantissa := by
  have inRange : fits d.mantissa = true := by simp [fits, d.least, d.most]
  simp [shift?, inRange]

/-- Decimals of one scale are at it. -/
theorem alignable_of_scale {a b : Decimal} (same : a.scale = b.scale) : a.alignable b = true := by
  rw [alignable, align?, same, Nat.max_self, Nat.sub_self, shift?_zero, shift?_zero]
  rfl

/-- What two decimals are brought to are their mantissas at the larger of their scales. -/
theorem align?_of_alignable {a b : Decimal} (aligned : a.alignable b = true) :
    a.align? b = some (a.scaled (max a.scale b.scale), b.scaled (max a.scale b.scale)) := by
  obtain ⟨⟨left, right⟩, pair⟩ := Option.isSome_iff_exists.mp aligned
  rw [pair]
  simp only [align?, Option.bind_eq_bind, Option.bind_eq_some_iff] at pair
  obtain ⟨l, shiftLeft, r, shiftRight, same⟩ := pair
  cases same
  rw [scaled, scaled, ← eq_of_shift? shiftLeft, ← eq_of_shift? shiftRight]

/-- A mantissa at a scale beyond another is a multiple of the one there. -/
theorem scaled_add {d : Decimal} {scale : Nat} (larger : d.scale ≤ scale) (more : Nat) :
    d.scaled (scale + more) = d.scaled scale * Nat.pow 10 more := by
  have split : scale + more - d.scale = (scale - d.scale) + more := by omega
  rw [scaled, scaled, split, Int.mul_assoc]
  simp only [Nat.pow_eq, Nat.pow_add, Int.natCast_mul]

/-- **Alignable decimals are ordered as their mantissas are at any common scale.** -/
theorem compare_of_alignable {a b : Decimal} (aligned : a.alignable b = true) {scale : Nat}
    (left : a.scale ≤ scale) (right : b.scale ≤ scale) :
    a.compare b = Ord.compare (a.scaled scale) (b.scaled scale) := by
  obtain ⟨more, rfl⟩ : ∃ more, scale = max a.scale b.scale + more :=
    ⟨scale - max a.scale b.scale, by omega⟩
  have positive : (0 : Int) < (Nat.pow 10 more : Nat) := by
    exact_mod_cast Nat.pow_pos (by decide : 0 < 10)
  rw [scaled_add (Nat.le_max_left ..), scaled_add (Nat.le_max_right ..), ← cmp_eq_compare,
    cmp_mul_pos_right positive, cmp_eq_compare, compare, align?_of_alignable aligned]

/-- Decimals that are compared the other way round have the opposite order. -/
theorem compare_swap (a b : Decimal) : a.compare b = (b.compare a).swap := by
  rw [compare, compare, align?_swap a b]
  rcases a.align? b with _ | ⟨left, right⟩
  · exact compareFloats_swap a.approximate b.approximate
  · exact (Std.OrientedCmp.eq_swap : Ord.compare left right = _)

/-- The orders of three decimals agree if each two of them can be brought to one scale. -/
theorem compare_chained {x y z : Decimal} (xy : x.alignable y = true)
    (yz : y.alignable z = true) (xz : x.alignable z = true) :
    Chained (some (x.compare y)) (some (y.compare z)) (some (x.compare z)) := by
  -- Each pair has a scale of its own; their mantissas are compared at one that all three reach.
  have scale : ∃ scale, x.scale ≤ scale ∧ y.scale ≤ scale ∧ z.scale ≤ scale :=
    ⟨max x.scale (max y.scale z.scale), by omega⟩
  obtain ⟨scale, first, second, third⟩ := scale
  rw [compare_of_alignable xy first second, compare_of_alignable yz second third,
    compare_of_alignable xz first third]
  exact .of_cmp (Ord.compare : Int → Int → Ordering) _ _ _

end Decimal

end Sift
