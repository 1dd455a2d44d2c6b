/-
**What a lookup means, said of the values that an item stores.**

A lookup is about the elements under its path: those of a stored list, or a stored value alone. It
holds when some element passes the test of its operator against the literal, which is taken in the
form that the kind of the field asks for. Inequality holds when no element is equal.

* `Item.elementsAt`, `Item.hasAt` — the elements under a path, and whether there is a value at all.
* `Operator.passes` — whether one stored value passes the test of an operator.
* `Lookup.holds` — whether a lookup holds of an item.
-/

import Mathlib.Data.List.Infix
import Sift.Item.Basic
import Sift.Resolution
import Sift.Text.Lowercase
import Sift.Value.Order

namespace Sift

namespace Item

/-- What is stored under a path: the elements of a list, or a value alone. -/
def elementsAt (item : Item) (path : FieldPath) : List Value :=
  match item.valueAt path with
  | none => []
  | some (.list values) => values
  | some value => [value]

/-- Whether an item has a value under a path: neither null nor an empty list. -/
def hasAt (item : Item) (path : FieldPath) : Bool :=
  match item.valueAt path with
  | none | some .null | some (.list []) => false
  | some _ => true

end Item

namespace Operator

/-- The orders of a stored value and a literal that a comparison accepts. -/
def orders : Operator → List Ordering
  | .equal => [.eq]
  | .greater => [.gt]
  | .atLeast => [.gt, .eq]
  | .less => [.lt]
  | .atMost => [.lt, .eq]
  | _ => []

/-- Whether a stored text agrees with a given one. -/
def agrees (given stored : String) : Operator → Bool
  | .exact => stored = given
  | .exactAnyCase => Text.lowercase stored = Text.lowercase given
  | .contains => given.toList <:+: stored.toList
  | .containsAnyCase => (Text.lowercase given).toList <:+: (Text.lowercase stored).toList
  | .startsWith => given.toList <+: stored.toList
  | .startsWithAnyCase => (Text.lowercase given).toList <+: (Text.lowercase stored).toList
  | _ => false

/-- Whether a stored value passes the test of an operator. Only texts agree with texts, and values
that are not comparable pass no comparison. -/
def passes (operator : Operator) (literal stored : Value) : Bool :=
  if operator.isContainment then
    match literal, stored with
    | .text given, .text text => operator.agrees given text
    | _, _ => false
  else (stored.compare literal).any operator.orders.contains

end Operator

namespace Lookup

/-- Whether some element of a target passes the test of an operator against a value, taken in the
form that the target's kind asks for. -/
def somePasses (target : Target) (item : Item) (operator : Operator) (value : Value) : Bool :=
  match Literal.coerce target.path.text target.kind value with
  | .ok literal => (item.elementsAt target.path).any (operator.passes literal)
  | .error _ => false

/-- Whether a lookup on a target holds of an item. On a list, `contains` asks for equal elements. -/
def holdsOn (target : Target) (item : Item) (lookup : Lookup) : Bool :=
  match lookup.operator, lookup.value with
  | .present, .bool expected => item.hasAt target.path == expected
  | .present, _ => false
  | .contains, .list values => values.all (somePasses target item .equal)
  | .oneOf, .list values => values.any (somePasses target item .equal)
  | .oneOf, value => somePasses target item .equal value
  | .notEqual, value => !somePasses target item .equal value
  | .contains, value =>
    somePasses target item (if target.isMultiValued then .equal else .contains) value
  | operator, value => somePasses target item operator value

/-- The field that a lookup is about, and the path to it. -/
def target? (catalog : Catalog) (lookup : Lookup) : Option Target := do
  let path ← FieldPath.split? lookup.field
  let field ← catalog.get? path.field
  return ⟨field, path⟩

/-- Whether a lookup holds of an item. -/
def holds (catalog : Catalog) (item : Item) (lookup : Lookup) : Bool :=
  (lookup.target? catalog).any fun target => lookup.holdsOn target item

end Lookup

end Sift
