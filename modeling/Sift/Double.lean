/-
**The range of double-precision numbers.**

* `Double.nearest` — the double nearest to a whole number, which is a whole number too.
* `Double.exceeds` — whether a decimal number is beyond the largest double.
* `Double.productExceeds` — whether a product of two doubles is: that of a whole number and that of
  a power of ten. It can differ from `Double.exceeds` by the roundings, close to the end of the
  range.
-/

namespace Sift.Double

/-- The least number that is rounded beyond the largest double: it lies halfway between that and the
next power of two. -/
def bound : Nat := 1 <<< 1024 - 1 <<< 970

/-- The largest power of ten that is a double, by its exponent. -/
def maxPower : Nat := 308

/-- The double nearest to a whole number, of two equally near ones the even one. -/
def nearest (n : Nat) : Nat :=
  let unit := 1 <<< (n.log2 - 52)
  let kept := n / unit
  let excess := 2 * (n % unit)
  (if unit < excess || (unit == excess && kept % 2 == 1) then kept + 1 else kept) * unit

/-- Whether `digits * 10 ^ exponent` is rounded beyond the largest double. -/
def exceeds (digits : Nat) (exponent : Int) : Bool :=
  let length := (Nat.toDigits 10 digits).length
  if digits = 0 || (length : Int) + exponent < 300 then false
  else if 400 < (length : Int) + exponent then true
  else Nat.pow 10 (-exponent).toNat * bound ≤ digits * Nat.pow 10 exponent.toNat

/-- Whether `digits * 10 ^ exponent` is rounded beyond the largest double, where both factors are
rounded before. -/
def productExceeds (digits : Nat) (exponent : Int) : Bool :=
  if digits = 0 || exponent < 0 then false
  else maxPower < exponent || bound ≤ nearest digits * nearest (Nat.pow 10 exponent.toNat)

example : nearest (2 ^ 53 + 1) = 2 ^ 53 := by decide +kernel
example : nearest (2 ^ 53 + 3) = 2 ^ 53 + 4 := by decide +kernel
example : exceeds 17976931348623157 292 = false := by decide +kernel
example : exceeds 17976931348623159 292 = true := by decide +kernel
example : productExceeds 1 308 = false := by decide +kernel

/-- Rounding at most doubles a number. -/
theorem nearest_le (n : Nat) : nearest n ≤ 2 * n := by
  rcases Nat.eq_zero_or_pos n with rfl | positive
  · exact Nat.le_refl 0
  · have unit : 1 <<< (n.log2 - 52) ≤ n := by
      rw [Nat.one_shiftLeft]
      exact Nat.le_trans (Nat.pow_le_pow_right (by decide) (Nat.sub_le ..))
        (Nat.log2_self_le (Nat.pos_iff_ne_zero.mp positive))
    have kept := Nat.div_mul_le_self n (1 <<< (n.log2 - 52))
    simp only [nearest]
    split
    · rw [Nat.succ_mul]
      omega
    · omega

end Sift.Double
