/-
**The operators of lookups.**

* `Operator.suffix` and `Suffix.ofText?` — the end of a lookup key that stands for an operator.
* `Operator.symbol` — the operator in an expression.
* `Operator.inverse?` — the operator that holds exactly where another does not.
-/

namespace Sift

/-- How the value of a field is compared with a literal. -/
inductive Operator where
  | equal
  | notEqual
  | greater
  | atLeast
  | less
  | atMost
  | exact
  | exactAnyCase
  | contains
  | containsAnyCase
  | startsWith
  | startsWithAnyCase
  /-- Equality with any element of a list. -/
  | oneOf
  | present
  deriving DecidableEq

namespace Operator

/-- The end of a lookup key that stands for an operator; equality needs none. -/
def suffix : Operator → String
  | .equal => ""
  | .notEqual => "not"
  | .greater => "gt"
  | .atLeast => "gte"
  | .less => "lt"
  | .atMost => "lte"
  | .exact => "exact"
  | .exactAnyCase => "iexact"
  | .contains => "contains"
  | .containsAnyCase => "icontains"
  | .startsWith => "startswith"
  | .startsWithAnyCase => "istartswith"
  | .oneOf => "in"
  | .present => "exists"

/-- The operator in an expression. -/
def symbol : Operator → String
  | .equal => "=="
  | .notEqual => "!="
  | .greater => ">"
  | .atLeast => ">="
  | .less => "<"
  | .atMost => "<="
  | operator => operator.suffix

/-- Every operator that a suffix stands for. -/
def suffixed : List Operator :=
  [.notEqual, .greater, .atLeast, .less, .atMost, .exact, .exactAnyCase, .contains,
    .containsAnyCase, .startsWith, .startsWithAnyCase, .oneOf, .present]

/-- The operator that holds exactly where another does not, if there is one. -/
def inverse? : Operator → Option Operator
  | .equal => some .notEqual
  | .notEqual => some .equal
  | .greater => some .atMost
  | .atMost => some .greater
  | .atLeast => some .less
  | .less => some .atLeast
  | _ => none

def isComparison : Operator → Bool
  | .equal | .notEqual | .greater | .atLeast | .less | .atMost => true
  | _ => false

def isContainment : Operator → Bool
  | .exact | .exactAnyCase | .contains | .containsAnyCase | .startsWith | .startsWithAnyCase => true
  | _ => false

def ignoresCase : Operator → Bool
  | .exactAnyCase | .containsAnyCase | .startsWithAnyCase => true
  | _ => false

/-- The inverse of an inverse is the operator itself. -/
theorem inverse?_inverse? {operator other : Operator} (inverse : operator.inverse? = some other) :
    other.inverse? = some operator := by
  cases operator <;> cases other <;> simp_all [inverse?]

end Operator

/-- What the end of a lookup key asks for. -/
inductive Suffix where
  | operator (operator : Operator)
  /-- Both ends of a range, in one lookup. -/
  | range
  deriving DecidableEq

namespace Suffix

/-- What a text asks for at the end of a lookup key. -/
def ofText? (text : String) : Option Suffix :=
  if text = "range" then some .range
  else (Operator.suffixed.find? fun operator => operator.suffix = text).map .operator

end Suffix

end Sift
