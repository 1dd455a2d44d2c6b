/-
**How far apart two words are.**

`editDistance` counts the fewest single-character insertions, deletions and substitutions that turn
one word into another. It is computed row by row: the row of a word's beginning `w` holds the
distance from `w` to every beginning of the other word.
-/

namespace Sift.Text

/-- The rest of the row below `above`, given the entry to its left: `above` starts with the entry
diagonally above, and `target` with the character that this entry's column adds. -/
def nextEntries (c : Char) (left : Nat) : List Char → List Nat → List Nat
  | t :: target, diagonal :: up :: above =>
    let here := min (min (left + 1) (up + 1)) (if t = c then diagonal else diagonal + 1)
    here :: nextEntries c here target (up :: above)
  | _, _ => []

/-- The row of a beginning with one more character `c`. -/
def nextRow (c : Char) (target : List Char) : List Nat → List Nat
  | [] => []
  | first :: above => (first + 1) :: nextEntries c (first + 1) target (first :: above)

/-- The fewest insertions, deletions and substitutions of one character that turn `word` into
`target`. -/
def editDistance (word target : List Char) : Nat :=
  (word.foldl (fun row c => nextRow c target row) (List.range (target.length + 1))).getLastD 0

example : editDistance "kitten".toList "sitting".toList = 3 := by decide
example : editDistance [] "abc".toList = 3 := by decide

end Sift.Text
