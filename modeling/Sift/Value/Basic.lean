/-
**The values of fields.**

One type serves for what an item stores under a field and for the literals of a predicate: scalars,
lists, the labeled entries of an indexed field, and records of named values.

* `Value.typeName` — the word for a kind of value.
* `Value.describe` — a value as messages and expressions show it.
* `Value.equal` — equality that looks through scales of decimals and offsets of timestamps.
-/

import Sift.Calendar.Writer
import Sift.Decimal
import Sift.Named

namespace Sift

/-- A value of a field, or a literal. A record has its names in ascending order. -/
inductive Value where
  | null
  | bool (value : Bool)
  | int (value : Int64)
  | decimal (value : Decimal)
  | text (value : String)
  | timestamp (value : Timestamp)
  | dateTime (value : DateTime)
  | date (value : Date)
  | list (values : List Value)
  | labeled (label : String) (value : Value)
  | record (fields : List (String × Value))
  deriving Inhabited

namespace Value

/-- The word for a kind of value. -/
def typeName : Value → String
  | .null => "null"
  | .bool _ => "boolean"
  | .int _ => "integer"
  | .decimal _ => "decimal"
  | .text _ => "text"
  | .timestamp _ => "datetime"
  | .dateTime _ => "naive datetime"
  | .date _ => "date"
  | .list _ => "list"
  | .labeled _ _ => "labeled entry"
  | .record _ => "record"

def isNull : Value → Bool
  | .null => true
  | _ => false

def isList : Value → Bool
  | .list _ => true
  | _ => false

def text? : Value → Option String
  | .text value => some value
  | _ => none

def list? : Value → Option (List Value)
  | .list values => some values
  | _ => none

def boolText (value : Bool) : String :=
  if value then "true" else "false"

mutual

/-- A value as messages and expressions show it. -/
def describe : Value → String
  | .null => "None"
  | .bool value => boolText value
  | .int value => Text.intText value.toInt
  | .decimal value => value.text
  | .text value => "'" ++ value ++ "'"
  | .timestamp value => value.text false
  | .dateTime value => value.text ' '
  | .date value => value.text
  | .list values => "[" ++ ", ".intercalate (describeAll values) ++ "]"
  | .labeled label value => label ++ "=" ++ describe value
  | .record fields => "\x7b" ++ ", ".intercalate (describeFields fields) ++ "\x7d"

def describeAll : List Value → List String
  | [] => []
  | value :: rest => describe value :: describeAll rest

def describeFields : List (String × Value) → List String
  | [] => []
  | (name, value) :: rest => (name ++ ": " ++ describe value) :: describeFields rest

end

mutual

/-- Equality of values. Decimals are equal as numbers and timestamps as instants; a whole number
never equals a decimal. -/
def equal : Value → Value → Bool
  | .null, .null => true
  | .bool a, .bool b => a == b
  | .int a, .int b => a == b
  | .decimal a, .decimal b => a == b
  | .text a, .text b => a == b
  | .timestamp a, .timestamp b => a == b
  | .dateTime a, .dateTime b => a == b
  | .date a, .date b => a == b
  | .list a, .list b => equalAll a b
  | .labeled a x, .labeled b y => a == b && equal x y
  | .record a, .record b => equalFields a b
  | _, _ => false

def equalAll : List Value → List Value → Bool
  | [], [] => true
  | a :: as, b :: bs => equal a b && equalAll as bs
  | _, _ => false

def equalFields : List (String × Value) → List (String × Value) → Bool
  | [], [] => true
  | (n, a) :: as, (m, b) :: bs => n == m && equal a b && equalFields as bs
  | _, _ => false

end

instance : BEq Value := ⟨equal⟩

end Value

end Sift
