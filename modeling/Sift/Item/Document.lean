/-
**Items as JSON documents.**

An item is an object with its `id`, its `changekey` if it has one, and its `fields`.

* `Item.toJson`, `Item.ofJson?` — items; when reading, absent fields stand for none.
* `Item.listOfText?` — the items of a JSON text that holds an array of them.
* `Depth.ofJson?`, `PropertySet.ofJson?` — the words of a search.
-/

import Sift.Item.Basic
import Sift.Json.Reader
import Sift.Value.Document

namespace Sift

/-- The members that spell an identity. -/
def identityMembers (id : String) (changeKey : Option String) : List (String × Json) :=
  ("id", .string id) ::
    match changeKey with
    | none => []
    | some key => [("changekey", .string key)]

/-- An optional text: absent, null or a text. -/
def optionalText? : Option Json → Option (Option String)
  | none => some none
  | some .null => some none
  | some (.string text) => some (some text)
  | some _ => none

/-- The identity that members spell. -/
def identityOfMembers? (members : List (String × Json)) : Option (String × Option String) := do
  let id ← Value.textUnder? "id" members
  let changeKey ← optionalText? (← Json.only? "changekey" members)
  return (id, changeKey)

/-- The identity of an object, or of an array of the id and the change key. -/
def identityOfJson? (json : Json) : Option (String × Option String) := do
  identityOfMembers? (← json.membersOr? ["id", "changekey"])

def ItemId.toJson (id : ItemId) : Json :=
  .object (identityMembers id.id id.changeKey)

def ItemId.ofJson? (json : Json) : Option ItemId :=
  (identityOfJson? json).map fun (id, key) => ⟨id, key⟩

def FolderId.toJson (folder : FolderId) : Json :=
  .object (identityMembers folder.id folder.changeKey)

def FolderId.ofJson? (json : Json) : Option FolderId :=
  (identityOfJson? json).map fun (id, key) => ⟨id, key⟩

namespace Item

def toJson (item : Item) : Json :=
  .object <| identityMembers item.id.id item.id.changeKey ++
    [("fields", .object (Value.toJsonFields item.fields))]

/-- The item of a document. Other members are ignored, but they have to be readable. -/
def ofJson? (json : Json) : Option Item := do
  let members ← json.members?
  let (id, key) ← identityOfMembers? members
  let others := members.filter fun member => member.1 != "fields"
  if !Json.areReadableMembers others then none
  else
    match ← Json.only? "fields" members with
    | none => return ⟨⟨id, key⟩, []⟩
    | some fields => return ⟨⟨id, key⟩, Named.ofList (← Value.ofFields? (← fields.members?))⟩

/-- The items of a text that holds an array of them. -/
def listOfText? (text : String) : Option (List Item) := do
  (← (← Json.parse? text).elements?).mapM ofJson?

end Item

def Depth.ofJson? (json : Json) : Option Depth := do
  Depth.ofName? (← json.word?)

def PropertySet.ofJson? (json : Json) : Option PropertySet := do
  PropertySet.ofName? (← json.word?)

end Sift
