/-
**Whole numbers in writing.**

* `natChars`, `intChars` — decimal digits, with a minus in front of a negative number.
* `padded` — digits with zeros in front up to a given width.
* `parseInt64?` — a number of 64 bits with an optional sign.
-/

namespace Sift.Text

def natChars (n : Nat) : List Char :=
  Nat.toDigits 10 n

/-- The decimal digits of a number, with a minus in front of a negative one. -/
def intChars (n : Int) : List Char :=
  (if n < 0 then ['-'] else []) ++ natChars n.natAbs

def intText (n : Int) : String :=
  String.ofList (intChars n)

def natText (n : Nat) : String :=
  String.ofList (natChars n)

/-- A number with zeros in front up to the given width. -/
def padded (width : Nat) (n : Nat) : List Char :=
  List.replicate (width - (natChars n).length) '0' ++ natChars n

/-- Splits off a sign; true stands for a minus. -/
def splitSign : List Char → Bool × List Char
  | '-' :: rest => (true, rest)
  | '+' :: rest => (false, rest)
  | text => (false, text)

/-- The text before the first point and the text after it. -/
def splitPoint (text : List Char) : List Char × List Char :=
  (text.takeWhile (· != '.'), (text.dropWhile (· != '.')).drop 1)

/-- Reads a number of 64 bits: an optional sign and digits, with nothing around. -/
def parseInt64? (text : String) : Option Int64 :=
  let (negative, digits) := splitSign text.toList
  if digits.isEmpty || !digits.all Char.isDigit then none
  else
    let magnitude := Nat.ofDigitChars 10 digits 0
    let value : Int := if negative then -(magnitude : Int) else magnitude
    if Int64.minValue.toInt ≤ value && value ≤ Int64.maxValue.toInt then some (Int64.ofInt value)
    else none

example : intChars (-120) = "-120".toList := by decide
example : padded 2 7 = "07".toList := by decide
example : parseInt64? "9223372036854775808" = none := by cbv

end Sift.Text
