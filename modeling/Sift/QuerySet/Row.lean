/-
**The rows of a result.**

A row is a whole item, the values under some paths with or without the paths, or a single value. A
value that an item does not have comes as null.

* `Shaper.row` — the row of an item.
-/

import Sift.Item.Basic

namespace Sift

/-- The form of the rows of a result. -/
inductive RowShape where
  | entities
  | values
  | tuple
  | flat
  deriving DecidableEq

namespace RowShape

def name : RowShape → String
  | .entities => "entities"
  | .values => "values"
  | .tuple => "tuple"
  | .flat => "flat"

end RowShape

inductive Row where
  | item (item : Item)
  | values (pairs : List (String × Value))
  | tuple (values : List Value)
  | flat (value : Value)

namespace Row

def item? : Row → Option Item
  | .item found => some found
  | _ => none

def get? (name : String) : Row → Option Value
  | .values pairs => pairs.lookup name
  | _ => none

def tuple? : Row → Option (List Value)
  | .tuple found => some found
  | _ => none

def flat? : Row → Option Value
  | .flat found => some found
  | _ => none

end Row

/-- How items are made into rows. -/
structure Shaper where
  shape : RowShape
  /-- The paths whose values a row holds. -/
  paths : List FieldPath
  /-- The fields that were fetched only to sort by them. -/
  stripped : List String

namespace Shaper

/-- Rows that are whole items as they come. -/
def whole (shape : RowShape) : Shaper := ⟨shape, [], []⟩

def valueOrNull (item : Item) (path : FieldPath) : Value :=
  (item.valueAt path).getD .null

def row (shaper : Shaper) (item : Item) : Row :=
  match shaper.shape with
  | .entities => .item (item.retain fun name => !shaper.stripped.contains name)
  | .values => .values (shaper.paths.map fun path => (path.text, valueOrNull item path))
  | .tuple => .tuple (shaper.paths.map (valueOrNull item))
  | .flat =>
    .flat <|
      match shaper.paths with
      | [] => .null
      | path :: _ => valueOrNull item path

end Shaper

end Sift
