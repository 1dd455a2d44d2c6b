/-
**Lowercase text, for every script.**

`lowercase` replaces each character by its lowercase. Two characters need more than a table of
single characters: the capital I with a dot becomes an `i` and a combining dot, and a capital sigma
becomes `ς` at the end of a word and `σ` elsewhere.

* `wordEnds` — the rule that tells the end of a word, looking past what is case-ignorable.
-/

import Sift.Text.CaseTable

namespace Sift.Text

/-- Membership in a sorted list of ranges. -/
def inRanges (code : Nat) : List (Nat × Nat) → Bool
  | [] => false
  | (first, last) :: more => (first ≤ code && code ≤ last) || (last < code && inRanges code more)

/-- The lowercase of a character that has a single one, and the character itself otherwise. -/
def lowerChar (c : Char) : Char :=
  if c.toNat < 128 then c.toLower
  else
    match lowerRuns.find? fun run => run.first ≤ c.toNat && c.toNat ≤ run.last with
    | some run =>
      if (c.toNat - run.first) % run.step = 0 then Char.ofNat (c.toNat + run.shift).toNat else c
    | none => c

/-- Whether the first character that is not case-ignorable has a case. -/
def meetsCased (text : List Char) : Bool :=
  match text.dropWhile fun c => inRanges c.toNat caseIgnorable with
  | [] => false
  | c :: _ => inRanges c.toNat cased

/-- Whether a word ends between `before`, given from its last character backwards, and `after`. -/
def wordEnds (before after : List Char) : Bool :=
  meetsCased before && !meetsCased after

/-- The lowercase of the rest of a text, given what stands before it from its last character
backwards. -/
def lowerFrom (before : List Char) : List Char → List Char
  | [] => []
  | c :: rest =>
    let lower :=
      if c = 'Σ' then [if wordEnds before rest then 'ς' else 'σ']
      else if c = 'İ' then ['i', '\u0307']
      else [lowerChar c]
    lower ++ lowerFrom (c :: before) rest

def lowercase (text : String) : String :=
  String.ofList (lowerFrom [] text.toList)

example : lowerFrom [] "ΑΣ".toList = "ας".toList := by decide +kernel
example : lowerFrom [] "ΑΣΑ".toList = "ασα".toList := by decide +kernel
example : lowerFrom [] "Straße İ ǅ".toList = "straße i\u0307 ǆ".toList := by decide +kernel

end Sift.Text
