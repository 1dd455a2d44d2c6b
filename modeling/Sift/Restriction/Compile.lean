/-
**From predicates to restrictions.**

A predicate is resolved first, so that every error is found before anything is sent. What is left
translates node by node: groups of a single part disappear, and what says nothing is dropped.

* `Predicate.compile` — the restriction of a predicate, or none where it says nothing.
-/

import Sift.Resolution
import Sift.Restriction.Basic
import Sift.Sorting

namespace Sift

namespace Target

/-- The store's name for a target. -/
def fieldUri (target : Target) : FieldUri where
  uri :=
    match target.path.subfield, target.field.index with
    | some name, some index => ((index.subfield? name).map Subfield.uri).getD target.field.uri
    | _, _ => target.field.uri
  label := target.path.label
  path := target.path

end Target

/-- What an operator asks of a single value: a comparison, a look into text, or neither. -/
inductive Operator.Test where
  | compare (comparison : Comparison)
  | contains (mode : ContainmentMode) (casing : Casing)
  | oneOf
  | present

/-- What an operator asks of a single value. -/
def Operator.test : Operator → Operator.Test
  | .equal => .compare .equal
  | .notEqual => .compare .notEqual
  | .greater => .compare .greater
  | .atLeast => .compare .atLeast
  | .less => .compare .less
  | .atMost => .compare .atMost
  | .exact => .contains .fullString .exact
  | .exactAnyCase => .contains .fullString .ignoreCase
  | .contains => .contains .substring .exact
  | .containsAnyCase => .contains .substring .ignoreCase
  | .startsWith => .contains .prefixed .exact
  | .startsWithAnyCase => .contains .prefixed .ignoreCase
  | .oneOf => .oneOf
  | .present => .present

namespace Restriction

/-- One alternative alone, or several of them. -/
def orOf : List Restriction → Restriction
  | [alternative] => alternative
  | alternatives => .or alternatives

/-- The parts of a group put together, or nothing where there are none. -/
def connect (connective : Connective) (parts : List Restriction) : Option Restriction :=
  let joined :=
    match parts with
    | [] => none
    | [part] => some part
    | parts => some (match connective with | .any => .or parts | .all | .notAll => .and parts)
  match connective with
  | .notAll => joined.map .not
  | .all | .any => joined

end Restriction

/-- The restriction of a resolved lookup. Membership in a list is equality with an element. -/
def Lookup.compile (catalog : Catalog) (lookup : Lookup) : Except QueryError Restriction := do
  let target ← Target.find catalog lookup.field lookup.key
  let field := target.fieldUri
  let literal (value : Value) : Except QueryError Literal := Literal.make target.path.text value
  let test :=
    if target.isMultiValued && lookup.operator = .contains then .compare .equal
    else lookup.operator.test
  match test with
  | .compare comparison => return .compare field comparison (← literal lookup.value)
  | .contains mode casing => return .contains field mode casing (← literal lookup.value)
  | .present => return .present field
  | .oneOf => do
    let values := lookup.value.list?.getD [lookup.value]
    let alternatives ← values.mapM fun value => do
      return .compare field .equal (← literal value)
    return Restriction.orOf alternatives

namespace Predicate

/-- A child of a group: what orders it among its siblings, and what it compiles to. -/
structure Compiled where
  sortKey : String
  result : Except QueryError (Option Restriction)

/-- The restrictions of the children of a group in the order of their sort keys, without those that
say nothing, or the first error in that order. -/
def siblings (compiled : List Compiled) : Except QueryError (List Restriction) := do
  let results ← (stableSort (fun a b => a.sortKey < b.sortKey) compiled).mapM Compiled.result
  return results.filterMap id

mutual

/-- The restriction of a resolved predicate. -/
def compileResolved (catalog : Catalog) : Predicate → Except QueryError (Option Restriction)
  | .leaf lookup => do return some (← lookup.compile catalog)
  | .group connective children => do
    return Restriction.connect connective (← siblings (compileAll catalog children))

def compileAll (catalog : Catalog) : List Predicate → List Compiled
  | [] => []
  | child :: rest => ⟨child.sortKey, compileResolved catalog child⟩ :: compileAll catalog rest

end

/-- The restriction of a predicate, or none where it says nothing. -/
def compile (catalog : Catalog) (predicate : Predicate) :
    Except QueryError (Option Restriction) := do
  compileResolved catalog (← predicate.resolve catalog)

end Predicate

end Sift
