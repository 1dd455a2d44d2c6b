/-
**Catalogs of fields.**

A catalog lists the fields that items of one type have: the kind of their values, whether they hold
one value or a list, whether the store can search them, and for an indexed field the labels of its
entries and their sub-fields.

* `Catalog.get?` — the field of a name.
* `Catalog.register` — adds a field, in place of one of the same name; the fields stay sorted by
  name.
-/

namespace Sift

/-- What the values of a field are. -/
inductive FieldKind where
  | text
  | boolean
  | integer
  | decimal
  | timestamp
  | date
  | choice (choices : List String)
  | record
  deriving DecidableEq

namespace FieldKind

/-- Whether the values are text. Only then is there containment or matching without regard to
case. -/
def isTextual : FieldKind → Bool
  | .text | .choice _ => true
  | _ => false

def name : FieldKind → String
  | .text => "text"
  | .boolean => "boolean"
  | .integer => "integer"
  | .decimal => "decimal"
  | .timestamp => "datetime"
  | .date => "date"
  | .choice _ => "choice"
  | .record => "record"

/-- The choices that a kind allows, none for a kind without choices. -/
def choices : FieldKind → List String
  | .choice choices => choices
  | _ => []

end FieldKind

/-- A named part of the entries of an indexed field. -/
structure Subfield where
  name : String
  uri : String
  deriving DecidableEq

/-- The labels that select an entry of an indexed field. Where there are sub-fields, one has to be
named too. -/
structure FieldIndex where
  labels : List String
  subfields : List Subfield
  deriving DecidableEq

namespace FieldIndex

def hasLabel (index : FieldIndex) (label : String) : Bool :=
  index.labels.contains label

def subfield? (index : FieldIndex) (name : String) : Option Subfield :=
  index.subfields.find? fun subfield => subfield.name = name

end FieldIndex

/-- The definition of a field. -/
structure Field where
  name : String
  /-- The store's own name for the field. -/
  uri : String
  kind : FieldKind
  isList : Bool := false
  /-- False for a field that the store refuses to search. -/
  searchable : Bool := true
  /-- True for what identifies an item: it comes with every item and is never asked for. -/
  isAttribute : Bool := false
  index : Option FieldIndex := none
  deriving DecidableEq

namespace Field

def isIndexed (field : Field) : Bool :=
  field.index.isSome

end Field

/-- The fields of one type of item. -/
structure Catalog where
  object : String
  fields : List Field
  deriving DecidableEq

namespace Catalog

def empty (object : String) : Catalog := ⟨object, []⟩

def get? (catalog : Catalog) (name : String) : Option Field :=
  catalog.fields.find? fun field => field.name = name

def names (catalog : Catalog) : List String :=
  catalog.fields.map Field.name

/-- Puts a field among fields sorted by name, in place of one of its own name. -/
def insertField (field : Field) : List Field → List Field
  | [] => [field]
  | old :: rest =>
    if field.name < old.name then field :: old :: rest
    else if old.name = field.name then field :: rest
    else old :: insertField field rest

/-- The catalog with a field added, in place of one of its own name. -/
def register (catalog : Catalog) (field : Field) : Catalog :=
  { catalog with fields := insertField field catalog.fields }

/-- The catalog of these fields. A later field stands in place of an earlier one of its name. -/
def ofFields (object : String) (fields : List Field) : Catalog :=
  fields.foldl register (empty object)

/-- What was found goes by the name that was asked for. -/
theorem name_of_get? {catalog : Catalog} {name : String} {field : Field}
    (found : catalog.get? name = some field) : field.name = name := by
  simpa using List.find?_some found

theorem get?_register_self (catalog : Catalog) (field : Field) :
    (catalog.register field).get? field.name = some field := by
  obtain ⟨object, fields⟩ := catalog
  simp only [register, get?]
  fun_induction insertField field fields <;> simp_all

end Catalog

end Sift
