/-
**The name that was probably meant.**

`suggest?` looks among the known names for the one closest to a misspelled word, regardless of case.
It gives none when the closest name is too far off, or agrees with the word but for its case.
-/

import Sift.Text.EditDistance
import Sift.Text.Lowercase

namespace Sift.Text

/-- How far off a suggested name may be. -/
def suggestionRadius : Nat := 3

/-- The distance of two words regardless of case. -/
def looseDistance (word name : String) : Nat :=
  editDistance (lowercase word).toList (lowercase name).toList

/-- The first of the pairs whose number is the least. -/
def firstLeast : List (String × Nat) → Option (String × Nat)
  | [] => none
  | (name, distance) :: rest =>
    match firstLeast rest with
    | none => some (name, distance)
    | some (later, least) =>
      if least < distance then some (later, least) else some (name, distance)

/-- The name closest to a word, if it is close but not the word itself. -/
def suggest? (word : String) (names : List String) : Option String := do
  let candidates := names.filter fun name => !name.isEmpty
  let (name, distance) ← firstLeast <| candidates.map fun name => (name, looseDistance word name)
  if 0 < distance && distance ≤ suggestionRadius then some name else none

end Sift.Text
