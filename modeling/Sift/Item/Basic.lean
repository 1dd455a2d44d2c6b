/-
**Items, folders, and what a search says about them.**

* `Item.valueAt` — the value that a path leads to in an item.
* `Item.retain` — an item with only some of its fields.
* `Depth`, `PropertySet` — how far a search descends into folders, and how much of each item it
  returns.
-/

import Sift.Path
import Sift.Value.Basic

namespace Sift

/-- The identity of an item. The change key changes with every modification, the id never. -/
structure ItemId where
  id : String
  changeKey : Option String := none
  deriving DecidableEq

/-- A folder to search in. -/
structure FolderId where
  id : String
  changeKey : Option String := none
  deriving DecidableEq

namespace FolderId

/-- A folder that every mailbox has, such as `inbox`. -/
def distinguished (name : String) : FolderId := { id := name }

end FolderId

/-- An item with the fields that were asked for. -/
structure Item where
  id : ItemId
  fields : Named Value

namespace Item

def ofId (id : ItemId) : Item := ⟨id, []⟩

def withField (item : Item) (name : String) (value : Value) : Item :=
  { item with fields := Named.put name value item.fields }

/-- The value of a field. What identifies the item is no field. -/
def get? (item : Item) (name : String) : Option Value :=
  if name = "item_id" || name = "changekey" then none else Named.find? name item.fields

/-- The value of the first entry with a label. -/
def firstLabeled (label : String) : List Value → Option Value
  | [] => none
  | .labeled l value :: rest => if l = label then some value else firstLabeled label rest
  | _ :: rest => firstLabeled label rest

/-- The value of the entry with a label, in a list of entries or in a single entry. -/
def entry? (label : String) : Value → Option Value
  | .list entries => firstLabeled label entries
  | .labeled l value => if l = label then some value else none
  | _ => none

/-- The value of a sub-field of a record. -/
def subfield? (name : String) : Value → Option Value
  | .record fields => Named.find? name fields
  | _ => none

/-- The value that a path leads to. The fields `item_id` and `changekey` lead to the identity,
whatever label or sub-field follows. -/
def valueAt (item : Item) (path : FieldPath) : Option Value :=
  if path.field = "item_id" then some (.text item.id.id)
  else if path.field = "changekey" then item.id.changeKey.map .text
  else do
    let value ← Named.find? path.field item.fields
    match path.label with
    | none => some value
    | some label =>
      let entry ← entry? label value
      match path.subfield with
      | none => some entry
      | some name => subfield? name entry

/-- The item with only the fields whose names pass the test. -/
def retain (item : Item) (test : String → Bool) : Item :=
  { item with fields := Named.keep test item.fields }

/-- Items are equal when their identities and their fields are. -/
instance : BEq Item := ⟨fun a b => a.id == b.id && Value.equalFields a.fields b.fields⟩

end Item

/-- How far a search descends into folders. -/
inductive Depth where
  | shallow
  | deep
  | softDeleted
  | associated
  deriving DecidableEq

namespace Depth

/-- The word for a depth in a search. -/
def wireName : Depth → String
  | .shallow => "Shallow"
  | .deep => "Deep"
  | .softDeleted => "SoftDeleted"
  | .associated => "Associated"

/-- The word for a depth in settings. -/
def name : Depth → String
  | .shallow => "shallow"
  | .deep => "deep"
  | .softDeleted => "soft_deleted"
  | .associated => "associated"

def all : List Depth := [.shallow, .deep, .softDeleted, .associated]

/-- The depth that a word stands for in settings. -/
def ofName? (name : String) : Option Depth :=
  all.find? fun depth => depth.name = name

instance : Inhabited Depth := ⟨.shallow⟩

end Depth

/-- How much of each item a search returns, apart from the fields that it asks for by path. -/
inductive PropertySet where
  | idOnly
  | standard
  | all
  deriving DecidableEq

namespace PropertySet

def name : PropertySet → String
  | .idOnly => "id_only"
  | .standard => "default"
  | .all => "all_properties"

def ofName? (name : String) : Option PropertySet :=
  [idOnly, standard, all].find? fun set => set.name = name

end PropertySet

end Sift
