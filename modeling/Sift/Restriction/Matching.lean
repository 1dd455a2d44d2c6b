/-
**Which items a restriction admits.**

A missing value equals nothing, and unequal is the opposite of equal. On a list a test holds if it
holds of some element, so that unequal means that no element is equal.

* `Restriction.satisfiedBy` — whether an item satisfies a restriction.
-/

import Sift.Item.Basic
import Sift.Restriction.Basic
import Sift.Text.Lowercase
import Sift.Text.Search
import Sift.Value.Order

namespace Sift

namespace Comparison

/-- Whether a stored value compares with a literal. -/
def holds (comparison : Comparison) (literal stored : Value) : Bool :=
  comparison.accepts (stored.compare literal)

/-- Whether what is stored under a path compares with a literal. -/
def holdsAt (comparison : Comparison) (literal : Value) : Option Value → Bool
  | some (.list values) =>
    match comparison with
    | .notEqual => !values.any (Comparison.equal.holds literal)
    | comparison => values.any (comparison.holds literal)
  | stored => comparison.accepts (stored.bind fun value => value.compare literal)

end Comparison

namespace ContainmentMode

/-- Whether a text agrees with another in the part that the mode names. -/
def agrees (mode : ContainmentMode) (needle text : List Char) : Bool :=
  match mode with
  | .fullString => text == needle
  | .substring => Text.occursIn needle text
  | .prefixed => Text.startsWith needle text

end ContainmentMode

namespace Casing

/-- A text as it is compared. -/
def fold (casing : Casing) (text : String) : List Char :=
  match casing with
  | .exact => text.toList
  | .ignoreCase => (Text.lowercase text).toList

end Casing

namespace Restriction

/-- Whether a stored value is a text that agrees with another. -/
def textAgrees (mode : ContainmentMode) (casing : Casing) (needle : String) (stored : Value) :
    Bool :=
  match stored.text? with
  | some text => mode.agrees (casing.fold needle) (casing.fold text)
  | none => false

/-- Whether what is stored under a path contains a text. -/
def containsAt (mode : ContainmentMode) (casing : Casing) (needle : String) :
    Option Value → Bool
  | some (.list values) => values.any (textAgrees mode casing needle)
  | some value => textAgrees mode casing needle value
  | none => false

/-- Whether anything is stored under a path: neither null nor an empty list. -/
def isStored : Option Value → Bool
  | none | some .null => false
  | some (.list values) => !values.isEmpty
  | some _ => true

mutual

def admits (item : Item) : Restriction → Bool
  | .and children => admitsAll item children
  | .or children => admitsAny item children
  | .not child => !admits item child
  | .compare field comparison literal =>
    comparison.holdsAt literal.value (item.valueAt field.path)
  | .contains field mode casing literal =>
    containsAt mode casing literal.text (item.valueAt field.path)
  | .present field => isStored (item.valueAt field.path)

def admitsAll (item : Item) : List Restriction → Bool
  | [] => true
  | child :: rest => admits item child && admitsAll item rest

def admitsAny (item : Item) : List Restriction → Bool
  | [] => false
  | child :: rest => admits item child || admitsAny item rest

end

/-- Whether an item satisfies a restriction. -/
def satisfiedBy (restriction : Restriction) (item : Item) : Bool :=
  admits item restriction

theorem admitsAll_eq_all (item : Item) (children : List Restriction) :
    admitsAll item children = children.all (admits item) := by
  induction children with
  | nil => rfl
  | cons child rest ih => simp [admitsAll, ih]

theorem admitsAny_eq_any (item : Item) (children : List Restriction) :
    admitsAny item children = children.any (admits item) := by
  induction children with
  | nil => rfl
  | cons child rest ih => simp [admitsAny, ih]

end Restriction

end Sift
