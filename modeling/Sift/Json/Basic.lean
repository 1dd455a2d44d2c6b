/-
**JSON documents.**

A document keeps what distinguishes it from another: the members of an object in their order and
with their repetitions, and for a number whether it is written as a whole number. A part may be in
good grammar and still have no value. It does no harm where nothing asks for it.

* `Json.members?`, `Json.elements?`, … — what a document of one kind holds.
* `Json.only?` — the value of a key that an object has at most once.
* `Json.isReadable` — whether every part of a document has a value.
* `Json.settled` — a document in which each key of an object stands once, with its last value, and
  the keys are in order.
-/

import Sift.Named

namespace Sift

/-- A JSON document. A number with a fraction or an exponent, or a negative zero, is kept as it is
written. -/
inductive Json where
  | null
  | bool (value : Bool)
  | whole (value : Int)
  | real (literal : String)
  | string (value : String)
  | array (elements : List Json)
  | object (members : List (String × Json))
  /-- A part without a value, as it is written: a number beyond the range of a double, a string with
  half of a surrogate pair, an object with such a key, or an array or object that is nested too
  deeply. -/
  | unreadable (written : String)
  deriving Inhabited

namespace Json

def bool? : Json → Option Bool
  | .bool value => some value
  | _ => none

/-- The whole number that a document is. -/
def whole? : Json → Option Int
  | .whole value => some value
  | _ => none

def string? : Json → Option String
  | .string value => some value
  | _ => none

def elements? : Json → Option (List Json)
  | .array elements => some elements
  | _ => none

def members? : Json → Option (List (String × Json))
  | .object members => some members
  | _ => none

/-- The members of an object, or the elements of an array as the values of the given keys, in their
order and possibly without the last ones. -/
def membersOr? (keys : List String) : Json → Option (List (String × Json))
  | .object members => some members
  | .array elements => if elements.length ≤ keys.length then some (keys.zip elements) else none
  | _ => none

/-- A word, alone or as the only key of an object, with no value. -/
def word? : Json → Option String
  | .string word => some word
  | .object [(word, .null)] => some word
  | _ => none

/-- A word, alone or as the only key of an object, with no value or an empty object. -/
def wordOrUnit? : Json → Option String
  | .object [(word, .object [])] => some word
  | json => json.word?

/-- The signed 64-bit number that a document is. -/
def int64? (json : Json) : Option Int64 := do
  let value ← json.whole?
  if Int64.minValue.toInt ≤ value && value ≤ Int64.maxValue.toInt then some (Int64.ofInt value)
  else none

/-- The number below `bound` that a document is. -/
def natBelow? (bound : Nat) (json : Json) : Option Nat := do
  let value ← json.whole?
  if 0 ≤ value && value < bound then some value.toNat else none

mutual

/-- Whether every part of a document has a value. -/
def isReadable : Json → Bool
  | .array elements => areReadable elements
  | .object members => areReadableMembers members
  | .unreadable _ => false
  | _ => true

def areReadable : List Json → Bool
  | [] => true
  | json :: rest => isReadable json && areReadable rest

def areReadableMembers : List (String × Json) → Bool
  | [] => true
  | (_, json) :: rest => isReadable json && areReadableMembers rest

end

/-- Every value that a key has among the members of an object. -/
def valuesOf (key : String) (members : List (String × Json)) : List Json :=
  members.filterMap fun (name, value) => if name = key then some value else none

/-- The value of a key that stands at most once: `none` if it is repeated, and `some none` if it is
absent. -/
def only? (key : String) (members : List (String × Json)) : Option (Option Json) :=
  match valuesOf key members with
  | [] => some none
  | [value] => some (some value)
  | _ => none

mutual

/-- A document in which each key of an object stands once, with its last value, in ascending
order. -/
def settled : Json → Json
  | .array elements => .array (settledElements elements)
  | .object members => .object (Named.ofList (settledMembers members))
  | json => json

def settledElements : List Json → List Json
  | [] => []
  | json :: rest => settled json :: settledElements rest

def settledMembers : List (String × Json) → List (String × Json)
  | [] => []
  | (key, json) :: rest => (key, settled json) :: settledMembers rest

end

end Json

end Sift
