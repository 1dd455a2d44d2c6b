/-
**Predicates as expressions.**

`Predicate.expression?` writes a predicate with `AND`, `OR` and `NOT`. Siblings are ordered by their
sort keys, what says nothing is left out, and a group among siblings stands in parentheses unless it
begins with `NOT`.
-/

import Sift.Predicate.Basic
import Sift.Sorting

namespace Sift.Predicate

/-- The expression of a child: what orders it among its siblings, and its text. -/
structure Part where
  sortKey : String
  text : String

/-- Whether a predicate needs no parentheses among siblings. -/
def isBare (predicate : Predicate) : Bool :=
  match predicate.flattened with
  | .leaf _ | .group .notAll _ => true
  | .group .. => false

/-- What stands between the parts of a group. -/
def joiner : Connective → String
  | .any => " OR "
  | .all | .notAll => " AND "

/-- The text of a group from that of its children: negated where the connective says so, and then in
parentheses unless it is a single lookup. -/
def wrap (connective : Connective) (single : Bool) (text : String) : String :=
  if connective ≠ .notAll then text
  else if single then "NOT " ++ text
  else "NOT (" ++ text ++ ")"

/-- The texts of a group's parts in the order of their sort keys. -/
def joinParts (connective : Connective) (parts : List Part) : String :=
  (joiner connective).intercalate <|
    (stableSort (fun a b => a.sortKey < b.sortKey) parts).map Part.text

mutual

/-- The expression of a predicate, or nothing for one that says nothing. -/
def expression? : Predicate → Option String
  | .leaf lookup => some lookup.describe
  | .group _ [] => none
  | .group connective [child] =>
    (expression? child).map (wrap connective child.flattened.isLeaf)
  | .group connective (first :: second :: rest) =>
    match childParts (first :: second :: rest) with
    | [] => none
    | parts => some (wrap connective false (joinParts connective parts))

/-- The parts of those children that say something. -/
def childParts : List Predicate → List Part
  | [] => []
  | child :: rest =>
    match expression? child with
    | none => childParts rest
    | some text =>
      ⟨child.sortKey, if child.isBare then text else "(" ++ text ++ ")"⟩ :: childParts rest

end

def describe (predicate : Predicate) : String :=
  predicate.expression?.getD "Q()"

end Sift.Predicate
