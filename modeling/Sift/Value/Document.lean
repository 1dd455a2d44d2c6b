/-
**Values as JSON documents.**

A value is an object with a `type` and, unless there is no value, a `value`. Decimals, timestamps
and days stand there as text.

* `Value.toJson` — the document of a value.
* `Value.ofJson?` — the value of a document. The order of the keys is free and other keys are
  ignored, but neither key may be repeated; an array of the two stands for the object as well. A
  value that comes before its type is set aside: it has to be readable in all its parts, also in
  those that are ignored, and a type within it may be written as the key of an empty object.
-/

import Sift.Calendar.Reader
import Sift.Json.Basic
import Sift.Value.Basic

namespace Sift.Value

/-- An object with a type and a value. -/
def tagged (type : String) (content : Json) : Json :=
  .object [("type", .string type), ("value", content)]

mutual

def toJson : Value → Json
  | .null => .object [("type", .string "null")]
  | .bool value => tagged "bool" (.bool value)
  | .int value => tagged "int" (.whole value.toInt)
  | .decimal value => tagged "decimal" (.string value.text)
  | .text value => tagged "text" (.string value)
  | .timestamp value => tagged "date_time" (.string (value.text true))
  | .dateTime value => tagged "naive_date_time" (.string (value.text 'T'))
  | .date value => tagged "date" (.string value.text)
  | .list values => tagged "list" (.array (toJsonAll values))
  | .labeled label value =>
    tagged "labeled" (.object [("label", .string label), ("value", toJson value)])
  | .record fields => tagged "record" (.object (toJsonFields fields))

def toJsonAll : List Value → List Json
  | [] => []
  | value :: rest => toJson value :: toJsonAll rest

def toJsonFields : List (String × Value) → List (String × Json)
  | [] => []
  | (name, value) :: rest => (name, toJson value) :: toJsonFields rest

end

/-- The scalar of a type that a document holds. -/
def scalarOfJson? (type : String) (content : Json) : Option Value :=
  match type, content with
  | "null", .null => some .null
  | "bool", .bool value => some (.bool value)
  | "int", content => content.int64?.map .int
  | "decimal", .string written => (Decimal.parse? written).map .decimal
  | "text", .string written => some (.text written)
  | "date_time", .string written => (Timestamp.parseLoose? written).map .timestamp
  | "naive_date_time", .string written => (DateTime.parseLoose? written).map .dateTime
  | "date", .string written => (Date.parseLoose? written).map .date
  | _, _ => none

/-- The text under a key that stands exactly once. -/
def textUnder? (key : String) (members : List (String × Json)) : Option String := do
  (← (← Json.only? key members)).string?

/-- The type that a document names. In what was set aside, an empty object may stand for null. -/
def typeOfJson? (setAside : Bool) (json : Json) : Option String :=
  if setAside then json.wordOrUnit? else json.word?

mutual

/-- The value of a document, which may be part of what was set aside. -/
def read? (setAside : Bool) : Json → Option Value
  | .object members => do
    let type ← typeOfJson? setAside (← (← Json.only? "type" members))
    readMembers? setAside type false members
  | .array [type, content] => do readContent? setAside (← typeOfJson? setAside type) content
  | _ => none

/-- The value of a type whose content stands among the members of an object; `announced` tells
whether the type stands before them. Otherwise the content was set aside until the type was known,
for which it has to be readable. -/
def readMembers? (setAside : Bool) (type : String) (announced : Bool) :
    List (String × Json) → Option Value
  | [] => if type = "null" then some .null else none
  | (key, content) :: rest =>
    if key = "value" then
      if (Json.valuesOf "value" rest).isEmpty && (announced || content.isReadable) then
        readContent? (setAside || !announced) type content
      else none
    else readMembers? setAside type (announced || key = "type") rest

/-- The value of a type with the given content. -/
def readContent? (setAside : Bool) (type : String) : Json → Option Value
  | .array elements =>
    if type = "list" then (readElements? setAside elements).map .list else none
  | .object members =>
    if type = "labeled" then do
      let label ← textUnder? "label" members
      (readLabeled? setAside members).map (.labeled label)
    else if type = "record" then
      (readFields? setAside members).map fun fields => .record (Named.ofList fields)
    else none
  | content => scalarOfJson? type content

/-- The value under the key `value`, which stands exactly once. -/
def readLabeled? (setAside : Bool) : List (String × Json) → Option Value
  | [] => none
  | (key, value) :: rest =>
    if key = "value" then
      if (Json.valuesOf "value" rest).isEmpty then read? setAside value else none
    else readLabeled? setAside rest

def readElements? (setAside : Bool) : List Json → Option (List Value)
  | [] => some []
  | json :: rest => do
    let value ← read? setAside json
    let values ← readElements? setAside rest
    some (value :: values)

def readFields? (setAside : Bool) : List (String × Json) → Option (List (String × Value))
  | [] => some []
  | (name, json) :: rest => do
    let value ← read? setAside json
    let fields ← readFields? setAside rest
    some ((name, value) :: fields)

end

def ofJson? (json : Json) : Option Value :=
  read? false json

def ofFields? (members : List (String × Json)) : Option (List (String × Value)) :=
  readFields? false members

end Sift.Value
