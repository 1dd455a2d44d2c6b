/-
**Restrictions: what the store is asked for.**

A restriction is a predicate in the store's own terms: fields go by the store's names, and literals
carry their text on the wire.

* `Restriction.fieldPaths` — the paths that a restriction looks at, each once.
-/

import Sift.Literal
import Sift.Path

namespace Sift

/-- The store's name for a field, or for a sub-field of one labeled entry. -/
structure FieldUri where
  uri : String
  /-- The label of the entry of an indexed field. -/
  label : Option String
  /-- The path that the name stands for. -/
  path : FieldPath
  deriving DecidableEq

/-- A comparison by order. -/
inductive Comparison where
  | equal
  | notEqual
  | greater
  | atLeast
  | less
  | atMost
  deriving DecidableEq

namespace Comparison

/-- The element that stands for a comparison. -/
def element : Comparison → String
  | .equal => "t:IsEqualTo"
  | .notEqual => "t:IsNotEqualTo"
  | .greater => "t:IsGreaterThan"
  | .atLeast => "t:IsGreaterThanOrEqualTo"
  | .less => "t:IsLessThan"
  | .atMost => "t:IsLessThanOrEqualTo"

/-- Whether a comparison accepts an order of the stored value and the literal. Values that are not
comparable are unequal and nothing else. -/
def accepts : Comparison → Option Ordering → Bool
  | .notEqual, none => true
  | _, none => false
  | .equal, some order => order == .eq
  | .notEqual, some order => order != .eq
  | .greater, some order => order == .gt
  | .atLeast, some order => order != .lt
  | .less, some order => order == .lt
  | .atMost, some order => order != .gt

end Comparison

/-- Which part of a text has to agree with a literal. -/
inductive ContainmentMode where
  | fullString
  | substring
  | prefixed
  deriving DecidableEq

namespace ContainmentMode

def word : ContainmentMode → String
  | .fullString => "FullString"
  | .substring => "Substring"
  | .prefixed => "Prefixed"

end ContainmentMode

/-- Whether case matters. -/
inductive Casing where
  | exact
  | ignoreCase
  deriving DecidableEq

namespace Casing

def word : Casing → String
  | .exact => "Exact"
  | .ignoreCase => "IgnoreCase"

end Casing

/-- A restriction on the items of a search. -/
inductive Restriction where
  | and (children : List Restriction)
  | or (children : List Restriction)
  | not (child : Restriction)
  | compare (field : FieldUri) (comparison : Comparison) (literal : Literal)
  | contains (field : FieldUri) (mode : ContainmentMode) (casing : Casing) (literal : Literal)
  | present (field : FieldUri)

namespace Restriction

/-- Adds a path behind others, unless it is among them. -/
def addPath (paths : List FieldPath) (path : FieldPath) : List FieldPath :=
  if paths.contains path then paths else paths ++ [path]

mutual

/-- Adds the paths that a restriction looks at, in the order of the tree. -/
def collectPaths (paths : List FieldPath) : Restriction → List FieldPath
  | .and children => collectPathsAll paths children
  | .or children => collectPathsAll paths children
  | .not child => collectPaths paths child
  | .compare field _ _ => addPath paths field.path
  | .contains field _ _ _ => addPath paths field.path
  | .present field => addPath paths field.path

def collectPathsAll (paths : List FieldPath) : List Restriction → List FieldPath
  | [] => paths
  | child :: rest => collectPathsAll (collectPaths paths child) rest

end

/-- The paths that a restriction looks at, each once, in the order of the tree. -/
def fieldPaths (restriction : Restriction) : List FieldPath :=
  collectPaths [] restriction

end Restriction

end Sift
