/-
**Lookups: one field, one operator, one literal.**

* `Lookup.key` — the key that spells the field and the operator, such as `size__gte`.
* `splitKey` — the field and the operator that a key spells. An end of the key that is no suffix
  belongs to the field: it may be a label.
-/

import Sift.Predicate.Operator
import Sift.Text.Separator
import Sift.Value.Basic

namespace Sift

/-- A comparison of a field, given by the text of its path, with a literal. -/
structure Lookup where
  field : String
  operator : Operator
  value : Value

namespace Lookup

def key (lookup : Lookup) : String :=
  if lookup.operator = .equal then lookup.field
  else lookup.field ++ Text.separator ++ lookup.operator.suffix

def describe (lookup : Lookup) : String :=
  lookup.field ++ " " ++ lookup.operator.symbol ++ " " ++ lookup.value.describe

instance : BEq Lookup :=
  ⟨fun a b => a.field == b.field && a.operator == b.operator && a.value == b.value⟩

end Lookup

/-- The field and the operator that a lookup key spells. -/
def splitKey (key : String) : String × Suffix :=
  match Text.splitLast key.toList with
  | none => (key, .operator .equal)
  | some (field, tail) =>
    match Suffix.ofText? (String.ofList tail) with
    | some suffix => (String.ofList field, suffix)
    | none => (key, .operator .equal)

end Sift
