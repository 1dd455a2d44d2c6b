/-
**Names joined by a double underscore.**

A path such as `physical_addresses__Home__city` and a lookup key such as `size__gte` are parts
joined by `separator`.

* `pieces` — all parts, cut at every separator that a scan from the left meets.
* `splitLast` — the two sides of the rightmost separator.
* `join` — parts put back together, with a separator between neighbours.

The two scans differ on three underscores in a row: `a___b` has the parts `a` and `_b`, while its
rightmost separator leaves `a_` and `b`.
-/

namespace Sift.Text

/-- What stands between the parts of a path or of a lookup key. -/
def separator : String := "__"

/-- The parts of a text, cut at each separator that a scan from the left meets. -/
def pieces : List Char → List (List Char)
  | [] => [[]]
  | '_' :: '_' :: rest => [] :: pieces rest
  | c :: rest =>
    match pieces rest with
    | [] => [[c]]
    | part :: parts => (c :: part) :: parts

/-- The two sides of the rightmost separator, if there is one. -/
def splitLast : List Char → Option (List Char × List Char)
  | [] => none
  | c :: rest =>
    match splitLast rest with
    | some (head, tail) => some (c :: head, tail)
    | none =>
      match c, rest with
      | '_', '_' :: tail => some ([], tail)
      | _, _ => none

/-- Parts with a separator between neighbours. -/
def join : List (List Char) → List Char
  | [] => []
  | [part] => part
  | part :: parts => part ++ '_' :: '_' :: join parts

example : pieces "a___b".toList = ["a".toList, "_b".toList] := by decide
example : splitLast "a___b".toList = some ("a_".toList, "b".toList) := by decide
example : pieces [] = [[]] := rfl

/-- Every text has at least one part. -/
theorem pieces_ne_nil (text : List Char) : pieces text ≠ [] := by
  fun_cases pieces text <;> simp_all

/-- The parts joined again are the text. -/
theorem join_pieces (text : List Char) : join (pieces text) = text := by
  fun_induction pieces text with
  | case1 => rfl
  | case2 rest ih =>
    cases parts : pieces rest with
    | nil => exact absurd parts (pieces_ne_nil rest)
    | cons part more => simp [join, ← parts, ih]
  | case3 c rest _ none => exact absurd none (pieces_ne_nil rest)
  | case4 c rest _ part parts found ih =>
    rw [found] at ih
    cases parts with
    | nil => simpa [join] using ih
    | cons next more => simpa [join] using ih

/-- The two sides of the rightmost separator, joined, are the text. -/
theorem eq_of_splitLast {text head tail : List Char} (split : splitLast text = some (head, tail)) :
    text = head ++ '_' :: '_' :: tail := by
  fun_induction splitLast text generalizing head tail with
  | case1 => simp at split
  | case2 c rest head' tail' _ ih =>
    obtain ⟨rfl, rfl⟩ := by simpa using split
    simp [ih (by assumption)]
  | case3 tail' =>
    obtain ⟨rfl, rfl⟩ := by simpa using split
    rfl
  | case4 => simp at split

end Sift.Text
