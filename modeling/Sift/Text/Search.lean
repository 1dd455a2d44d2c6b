/-
**Finding one text within another.**

* `startsWith` — whether a text begins with another.
* `occursIn` — whether a text stands anywhere in another.
* `occursIn_iff` — it does when it is a piece of the other.
-/

namespace Sift.Text

/-- Whether a text begins with `needle`. -/
def startsWith (needle : List Char) (text : List Char) : Bool :=
  needle.isPrefixOf text

/-- Whether `needle` stands anywhere in a text. -/
def occursIn (needle : List Char) : List Char → Bool
  | [] => needle.isEmpty
  | c :: rest => startsWith needle (c :: rest) || occursIn needle rest

/-- A text begins with its prefixes. -/
theorem startsWith_iff {needle text : List Char} : startsWith needle text ↔ needle <+: text :=
  List.isPrefixOf_iff_prefix

/-- **What stands in a text is what the text contains in one piece.** -/
theorem occursIn_iff {needle text : List Char} : occursIn needle text ↔ needle <:+: text := by
  induction text with
  | nil => rw [occursIn, List.isEmpty_iff, List.infix_nil]
  | cons c rest ih => rw [occursIn, Bool.or_eq_true, startsWith_iff, ih, List.infix_cons_iff]

end Sift.Text
