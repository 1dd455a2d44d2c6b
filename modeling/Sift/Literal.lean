/-
**Literals of predicates, and their text on the wire.**

A literal has to fit the kind of the field that it is compared with. Nothing is converted between
kinds, but for whole numbers given for decimals; timestamps are moved to offset zero.

* `Literal.coerce` — a value checked against a kind.
* `Literal.wireText?` — the text of a scalar on the wire.
* `Literal.parse` — the value of a kind that a wire text spells.
-/

import Sift.Calendar.Reader
import Sift.Catalog.Basic
import Sift.Error.Query
import Sift.Value.Basic

namespace Sift

namespace Literal

/-- The error of a value that does not do for a field. -/
def invalid (field : String) (value : Value) (fault : LiteralFault) : QueryError :=
  .invalidLiteral field value.describe fault

/-- Checks a scalar against the kind of a field. -/
def coerce (field : String) : FieldKind → Value → Except QueryError Value
  | .text, .text text => .ok (.text text)
  | .choice choices, .text text =>
    if choices.contains text then .ok (.text text)
    else .error (invalid field (.text text) (.notAChoice choices))
  | .boolean, .bool value => .ok (.bool value)
  | .integer, .int value => .ok (.int value)
  | .decimal, .decimal value => .ok (.decimal value)
  | .decimal, .int value => .ok (.decimal (Decimal.ofInt64 value))
  | .timestamp, .timestamp value => .ok (.timestamp value.toUtc)
  | .timestamp, .dateTime value => .error (invalid field (.dateTime value) .withoutZone)
  | .date, .date value => .ok (.date value)
  | .record, value => .error (invalid field value .wholeRecord)
  | kind, value => .error (invalid field value (.mismatch kind.name value.typeName))

/-- The text of a scalar on the wire. Other values have none. -/
def wireText? : Value → Option String
  | .text text => some text
  | .bool value => some (Value.boolText value)
  | .int value => some (Text.intText value.toInt)
  | .decimal value => some value.text
  | .timestamp value => some (value.toUtc.text true)
  | .date value => some value.text
  | _ => none

/-- The text of a value on the wire, or the error for a field that has no such value. -/
def wireText (field : String) (value : Value) : Except QueryError String :=
  match wireText? value with
  | some text => .ok text
  | none => .error (invalid field value (.noWireForm value.typeName))

/-- The value of a kind that a wire text spells, before it is checked against the kind. -/
def read? : FieldKind → String → Option Value
  | .text, text | .choice _, text => some (.text text)
  | .boolean, text =>
    if text = "true" || text = "1" then some (.bool true)
    else if text = "false" || text = "0" then some (.bool false)
    else none
  | .integer, text => (Text.parseInt64? text).map .int
  | .decimal, text => (Decimal.parse? text).map .decimal
  | .timestamp, text => (Timestamp.parse? text).map .timestamp
  | .date, text => (Date.parse? text).map .date
  | .record, _ => none

/-- The value of a kind that a wire text spells. -/
def parse (field : String) (kind : FieldKind) (text : String) : Except QueryError Value :=
  match read? kind text with
  | some value => coerce field kind value
  | none => .error (.invalidLiteral field text (.unreadable kind.name))

end Literal

/-- A scalar together with its text on the wire. -/
structure Literal where
  value : Value
  text : String
  agree : Literal.wireText? value = some text

namespace Literal

/-- The literal of a value, or the error for a field that has no such value. -/
def make (field : String) (value : Value) : Except QueryError Literal :=
  match agree : wireText? value with
  | some text => .ok ⟨value, text, agree⟩
  | none => .error (invalid field value (.noWireForm value.typeName))

end Literal

end Sift
