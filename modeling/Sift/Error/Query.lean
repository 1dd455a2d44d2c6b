/-
**What can be wrong with a query, and how a query can fail.**

The causes come in families: faults of a lookup, of a literal, of a path and of an argument. Each
family has its wording in one function, and `QueryError.message` puts the whole sentence together.

* `QueryError.isCompileError` — whether the error is found before anything is sent to the store.
-/

import Sift.Error.Remote
import Sift.Text.Numeral
import Sift.Text.Suggestion

namespace Sift

def commaList (names : List String) : String :=
  ", ".intercalate names

/-- Why a lookup is not supported. -/
inductive LookupFault where
  | malformedPath
  | unknownSuffix (suffix : String)
  | notSearchable (field : String)
  | listOfRecords (field : String)
  /-- An operator on text, used on a field of another kind. -/
  | needsText (operator path kind : String)
  /-- An operator on single values, used on a list. -/
  | needsMembership (path : String)
  | other (reason : String)
  deriving DecidableEq

namespace LookupFault

def reason : LookupFault → String
  | .malformedPath => "malformed field path"
  | .unknownSuffix suffix => "unknown lookup suffix '" ++ suffix ++ "'"
  | .notSearchable field => "field '" ++ field ++ "' is not searchable"
  | .listOfRecords field => "field '" ++ field ++ "' is a list of records and cannot be searched"
  | .needsText operator path kind =>
    "'" ++ operator ++ "' is only supported on text fields, '" ++ path ++ "' is a " ++ kind ++
      " field"
  | .needsMembership path =>
    "only contains, in and exists are supported on list field '" ++ path ++ "'"
  | .other reason => reason

end LookupFault

/-- Why a literal does not do. -/
inductive LiteralFault where
  | absent
  | rangeNeedsPair
  | existsNeedsBool
  | emptyList
  | listForScalar
  | mismatch (expected got : String)
  | notAChoice (choices : List String)
  | withoutZone
  | wholeRecord
  | noWireForm (typeName : String)
  | unreadable (kind : String)
  | other (reason : String)
  deriving DecidableEq

namespace LiteralFault

/-- What the wire text of a kind has to be, by the word for the kind. -/
def expectation : String → String
  | "boolean" => "expected true, false, 1 or 0"
  | "integer" => "expected an integer"
  | "decimal" => "expected a decimal number"
  | "datetime" => "expected an RFC 3339 timestamp"
  | "date" => "expected a date as YYYY-MM-DD"
  | _ => "record fields have no wire form"

def reason : LiteralFault → String
  | .absent => "value cannot be None"
  | .rangeNeedsPair => "range requires exactly 2 elements"
  | .existsNeedsBool => "exists requires true or false"
  | .emptyList => "list cannot be empty"
  | .listForScalar => "expected a single value, got a list"
  | .mismatch expected got => "expected a " ++ expected ++ " value, got " ++ got
  | .notAChoice choices => "valid choices are: " ++ commaList choices
  | .withoutZone => "timestamps must be timezone aware"
  | .wholeRecord => "record fields can only be compared through a sub-field"
  | .noWireForm typeName => typeName ++ " values have no wire form"
  | .unreadable kind => expectation kind
  | .other reason => reason

end LiteralFault

/-- Why a path names nothing definite. -/
inductive PathFault where
  | malformed
  | noLabels (field : String)
  | labelRequired (labels : List String)
  | unknownLabel (label : String) (labels : List String)
  | subfieldRequired (subfields : List String)
  | noSubfields (field : String)
  | unknownSubfield (subfield : String) (subfields : List String)
  | other (reason : String)
  deriving DecidableEq

namespace PathFault

def reason : PathFault → String
  | .malformed => "malformed field path"
  | .noLabels field => "field '" ++ field ++ "' has no labels"
  | .labelRequired labels => "a label is required, one of: " ++ commaList labels
  | .unknownLabel label labels =>
    "unknown label '" ++ label ++ "', valid labels are: " ++ commaList labels
  | .subfieldRequired subfields => "a sub-field is required, one of: " ++ commaList subfields
  | .noSubfields field => "field '" ++ field ++ "' has no sub-fields"
  | .unknownSubfield subfield subfields =>
    "unknown sub-field '" ++ subfield ++ "', valid sub-fields are: " ++ commaList subfields
  | .other reason => reason

end PathFault

/-- Why the arguments of a call do not do. -/
inductive ArgumentFault where
  | zeroStep
  | zeroPageSize
  | noFields (call : String)
  | flatNeedsOne (count : Nat)
  | reverseNeedsOrdering
  | other (reason : String)
  deriving DecidableEq

namespace ArgumentFault

def reason : ArgumentFault → String
  | .zeroStep => "slice step cannot be zero"
  | .zeroPageSize => "page size must be at least 1"
  | .noFields call => call ++ "() requires at least one field"
  | .flatNeedsOne count =>
    "flat=true requires exactly one field, got " ++ Text.natText count
  | .reverseNeedsOrdering => "reverse() requires an ordering, call order_by() first"
  | .other reason => reason

end ArgumentFault

inductive QueryError where
  | unknownField (field object : String) (suggestion : Option String)
  | unsupportedLookup (lookup : String) (fault : LookupFault)
  /-- A literal, as it is shown, that does not do for a field. -/
  | invalidLiteral (field shown : String) (fault : LiteralFault)
  | ambiguousPath (path : String) (fault : PathFault)
  | invalidArguments (fault : ArgumentFault)
  | doesNotExist
  | multipleObjects (count : Nat)
  | indexOutOfRange (index : Int)
  /-- A slice steps beyond the numbers of 64 bits. -/
  | positionOverflow
  | remote (error : RemoteError)
  deriving DecidableEq

namespace QueryError

/-- An unknown field of an object, with the closest of the known names suggested. -/
def unknown (field object : String) (names : List String) : QueryError :=
  .unknownField field object (Text.suggest? field names)

def message : QueryError → String
  | .unknownField field object suggestion =>
    "'" ++ field ++ "' is not a valid field on " ++ object ++
      match suggestion with
      | none => ""
      | some name => ". Did you mean '" ++ name ++ "'?"
  | .unsupportedLookup lookup fault =>
    "lookup '" ++ lookup ++ "' is not supported: " ++ fault.reason
  | .invalidLiteral field shown fault =>
    "invalid value " ++ shown ++ " for field '" ++ field ++ "': " ++ fault.reason
  | .ambiguousPath path fault => "ambiguous field path '" ++ path ++ "': " ++ fault.reason
  | .invalidArguments fault => fault.reason
  | .doesNotExist => "query matched no items"
  | .multipleObjects count =>
    "query matched " ++ Text.natText count ++ " items, expected exactly one"
  | .indexOutOfRange index => "index " ++ Text.intText index ++ " out of range"
  | .positionOverflow => "slice position out of range"
  | .remote error => "remote error: " ++ error.message

/-- Whether the error is found before anything is sent to the store. -/
def isCompileError : QueryError → Bool
  | .unknownField .. | .unsupportedLookup .. | .invalidLiteral .. | .ambiguousPath ..
  | .invalidArguments _ => true
  | _ => false

end QueryError

end Sift
