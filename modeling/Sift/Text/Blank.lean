/-
**Blank characters, and text without them at its ends.**

The blanks are the twenty-five characters that carry the Unicode property `White_Space`: more than
the four of `Char.isWhitespace`, and not the zero-width characters that merely look blank.

* `isBlank` — the property itself.
* `trim` — a text without the blanks at both of its ends.
-/

namespace Sift.Text

/-- The characters with the Unicode property `White_Space`. -/
def isBlank (c : Char) : Bool :=
  let code := c.toNat
  (9 ≤ code && code ≤ 13) || code == 32 || code == 0x85 || code == 0xA0 || code == 0x1680 ||
    (0x2000 ≤ code && code ≤ 0x200A) || code == 0x2028 || code == 0x2029 || code == 0x202F ||
    code == 0x205F || code == 0x3000

/-- A text without the blanks that it starts with. -/
def trimStart (text : List Char) : List Char :=
  text.dropWhile isBlank

/-- A text without the blanks at both of its ends. -/
def trim (text : List Char) : List Char :=
  (trimStart (trimStart text).reverse).reverse

example : trim [' ', '\t', 'a', ' ', 'b', '\n'] = ['a', ' ', 'b'] := by decide

end Sift.Text
