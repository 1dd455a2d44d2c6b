/-
**Decimal numbers that remember how many digits follow the point.**

A `Decimal` is a whole number, its mantissa, and a scale: the count of its last digits that stand
after the point. `12.30` and `12.3` are one number with two mantissas.

* `Decimal.parse?` and `Decimal.text` — the written form: an optional sign, digits, at most one
  point. At most `maxScale` digits may follow the point when a number is read.
* `Decimal.align?` — two decimals brought to one scale, if both mantissas stay in range.
* `Decimal.compare` — the numerical order wherever `align?` succeeds, and the order of the nearest
  floating-point quotients otherwise.
-/

import Sift.Text.Blank
import Sift.Text.Numeral

namespace Sift

/-- The least number that has no place among the mantissas. -/
def Decimal.limit : Nat := 1 <<< 127

/-- A mantissa is a signed number of 128 bits. The scale is not bounded here: nothing but
`Decimal.approximate` depends on how many bits it has. -/
structure Decimal where
  mantissa : Int
  scale : Nat
  least : -Decimal.limit ≤ mantissa
  most : mantissa < Decimal.limit
  deriving DecidableEq

namespace Decimal

/-- The most digits that may follow the point of a number that is read. -/
def maxScale : Nat := 28

def fits (n : Int) : Bool :=
  -limit ≤ n && n < limit

/-- The decimal with this mantissa and scale, if the mantissa is in range. -/
def make? (mantissa : Int) (scale : Nat) : Option Decimal :=
  if range : -limit ≤ mantissa ∧ mantissa < limit then
    some ⟨mantissa, scale, range.1, range.2⟩
  else none

/-- A whole number as a decimal without digits after the point. -/
def ofInt64 (n : Int64) : Decimal where
  mantissa := n.toInt
  scale := 0
  least := by
    have range : limit = 170141183460469231731687303715884105728 := rfl
    have := n.le_toInt
    omega
  most := by
    have range : limit = 170141183460469231731687303715884105728 := rfl
    have := n.toInt_lt
    omega

instance : Inhabited Decimal := ⟨ofInt64 0⟩

/-! ### The written form -/

/-- Reads a decimal, with blanks allowed around it. -/
def parse? (text : String) : Option Decimal :=
  let (negative, body) := Text.splitSign (Text.trim text.toList)
  let (whole, fraction) := Text.splitPoint body
  let digits := whole ++ fraction
  if digits.isEmpty || !digits.all Char.isDigit || maxScale < fraction.length then none
  else
    let magnitude := Nat.ofDigitChars 10 digits 0
    if magnitude < limit then
      make? (if negative then -(magnitude : Int) else magnitude) fraction.length
    else none

/-- The digits of the mantissa, with zeros in front so that at least one stands before the point. -/
def paddedDigits (d : Decimal) : List Char :=
  Text.padded (d.scale + 1) d.mantissa.natAbs

def text (d : Decimal) : String :=
  let digits := d.paddedDigits
  let whole := digits.take (digits.length - d.scale)
  let fraction := digits.drop (digits.length - d.scale)
  String.ofList <|
    (if d.mantissa < 0 then ['-'] else []) ++ whole ++
      (if d.scale = 0 then [] else '.' :: fraction)

/-! ### Order -/

/-- The mantissa with zeros appended, if the result is in range. -/
def shift? (mantissa : Int) (places : Nat) : Option Int :=
  if places ≤ 38 && fits (mantissa * Nat.pow 10 places) then some (mantissa * Nat.pow 10 places)
  else none

/-- The mantissas of two decimals at the larger of their scales. -/
def align? (a b : Decimal) : Option (Int × Int) := do
  let scale := max a.scale b.scale
  let left ← shift? a.mantissa (scale - a.scale)
  let right ← shift? b.mantissa (scale - b.scale)
  return (left, right)

/-- A power by repeated squaring, each product rounded. -/
def floatPower (base : Float) (exponent : Nat) (product : Float) : Float :=
  if exponent = 0 then product
  else
    floatPower (base * base) (exponent / 2)
      (if exponent % 2 = 1 then product * base else product)
termination_by exponent

/-- The nearest float to the mantissa, divided by the power of ten. The exponent of that has 32 bits
with a sign, so that scales from `2 ^ 31` on stand for negative ones. -/
def approximate (d : Decimal) : Float :=
  let magnitude := Float.ofScientific d.mantissa.natAbs false 0
  let exponent := (Int32.ofNat d.scale).toInt
  let power := floatPower 10 exponent.natAbs 1
  (if d.mantissa < 0 then -magnitude else magnitude) / (if exponent < 0 then 1 / power else power)

def compareFloats (a b : Float) : Ordering :=
  if a < b then .lt else if b < a then .gt else .eq

def compare (a b : Decimal) : Ordering :=
  match a.align? b with
  | some (left, right) => Ord.compare left right
  | none => compareFloats a.approximate b.approximate

/-- Decimals are equal when neither is the greater, whatever their scales. -/
instance : BEq Decimal := ⟨fun a b => a.compare b == .eq⟩

example : (parse? " +12.30 ").map text = some "12.30" := by cbv
example : (parse? "-.5").map text = some "-0.5" := by cbv
example : parse? "." = none := by cbv

/-- A shifted mantissa is the product with the power of ten. -/
theorem eq_of_shift? {mantissa shifted : Int} {places : Nat}
    (shift : shift? mantissa places = some shifted) : shifted = mantissa * Nat.pow 10 places := by
  rw [shift?] at shift
  split at shift
  · exact (Option.some.inj shift).symm
  · cases shift

end Decimal

end Sift
