/-
**Predicates: trees of lookups.**

A group connects predicates: all of them hold, or any of them, or not all of them. A group without
children says nothing, and it drops out when predicates are combined.

* `Predicate.both`, `Predicate.either`, `Predicate.negate` — the boolean operations.
* `Predicate.ofKey`, `Predicate.ofKeys` — predicates from lookup keys and values.
* `Predicate.mapLeaves` — every lookup replaced, unless one cannot be.
-/

import Sift.Error.Query
import Sift.Predicate.Lookup

namespace Sift

/-- How a group connects its children. -/
inductive Connective where
  | all
  | any
  | notAll
  deriving DecidableEq

namespace Connective

def word : Connective → String
  | .all => "AND"
  | .any => "OR"
  | .notAll => "NOT"

end Connective

inductive Predicate where
  | leaf (lookup : Lookup)
  | group (connective : Connective) (children : List Predicate)

namespace Predicate

/-- The predicate that says nothing. -/
def empty : Predicate := .group .all []

instance : Inhabited Predicate := ⟨empty⟩

/-- Whether a predicate is a group without children. -/
def isEmpty : Predicate → Bool
  | .group _ [] => true
  | _ => false

def isLeaf : Predicate → Bool
  | .leaf _ => true
  | _ => false

def compare (field : String) (operator : Operator) (value : Value) : Predicate :=
  .leaf ⟨field, operator, value⟩

/-- A group of predicates, without those that are empty. -/
def groupOf (connective : Connective) (children : List Predicate) : Predicate :=
  .group connective (children.filter fun child => !child.isEmpty)

def allOf (children : List Predicate) : Predicate := groupOf .all children

def anyOf (children : List Predicate) : Predicate := groupOf .any children

def both (a b : Predicate) : Predicate := allOf [a, b]

def either (a b : Predicate) : Predicate := anyOf [a, b]

/-- The opposite of a predicate. An operator with an inverse is inverted in place, a negated group
loses its negation, and what says nothing stays so. -/
def negate : Predicate → Predicate
  | .leaf lookup =>
    match lookup.operator.inverse? with
    | some inverse => .leaf { lookup with operator := inverse }
    | none => .group .notAll [.leaf lookup]
  | .group .notAll children => .group .all children
  | .group connective [] => .group connective []
  | .group connective children => .group .notAll [.group connective children]

/-- Whether an item has a field, from a truth value. -/
def presence (field : String) (value : Bool) : Predicate :=
  if value then compare field .present (.bool true)
  else (compare field .present (.bool true)).negate

/-- The predicate of a lookup key and a value. -/
def ofKey (key : String) (value : Value) : Except QueryError Predicate :=
  if value.isNull then .error (.invalidLiteral key value.describe .absent)
  else
    match splitKey key, value with
    | (field, .range), .list [low, high] =>
      .ok (allOf [compare field .atLeast low, compare field .atMost high])
    | (_, .range), value => .error (.invalidLiteral key value.describe .rangeNeedsPair)
    | (field, .operator .present), .bool value => .ok (presence field value)
    | (_, .operator .present), value =>
      .error (.invalidLiteral key value.describe .existsNeedsBool)
    | (field, .operator operator), value => .ok (compare field operator value)

/-- All of the lookup keys with their values; a single one stands for itself. -/
def ofKeys (lookups : List (String × Value)) : Except QueryError Predicate := do
  match ← lookups.mapM fun (key, value) => ofKey key value with
  | [child] => return child
  | children => return allOf children

/-- What is left after descending through groups of a single child that do not negate. -/
def flattened : Predicate → Predicate
  | .group .all [child] => flattened child
  | .group .any [child] => flattened child
  | predicate => predicate

/-- What siblings are ordered by: the field of a lookup, with groups in front. -/
def sortKey (predicate : Predicate) : String :=
  match predicate.flattened with
  | .leaf lookup => lookup.field
  | .group .. => ""

mutual

/-- The predicate with every lookup replaced, or the first error in the order of the tree. -/
def mapLeaves (replace : Lookup → Except QueryError Predicate) :
    Predicate → Except QueryError Predicate
  | .leaf lookup => replace lookup
  | .group connective children => do
    return .group connective (← mapLeavesAll replace children)

def mapLeavesAll (replace : Lookup → Except QueryError Predicate) :
    List Predicate → Except QueryError (List Predicate)
  | [] => return []
  | child :: rest => do
    let child ← mapLeaves replace child
    return child :: (← mapLeavesAll replace rest)

end

mutual

def same : Predicate → Predicate → Bool
  | .leaf a, .leaf b => a == b
  | .group c as, .group d bs => c == d && sameAll as bs
  | _, _ => false

def sameAll : List Predicate → List Predicate → Bool
  | [], [] => true
  | a :: as, b :: bs => same a b && sameAll as bs
  | _, _ => false

end

instance : BEq Predicate := ⟨same⟩

end Predicate

end Sift
