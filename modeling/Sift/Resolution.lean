/-
**Predicates checked against a catalog.**

Resolving checks every lookup: its field exists and can be searched, an indexed field comes with a
label and with a sub-field where it has any, the operator suits the field, and the literal fits the
kind. Lookups on lists, and with lists of literals, are brought to one form on the way.

* `Target.find` — the field that a lookup is about.
* `Lookup.resolve`, `Predicate.resolve` — a lookup or a whole predicate in resolved form.
* `FieldPath.ofText`, `SortKey.ofText` — a path to fetch, and a key to sort by.
-/

import Sift.Literal
import Sift.Path
import Sift.Predicate.Basic

namespace Sift

/-- The field of a name, or the error that suggests another. -/
def Catalog.field (catalog : Catalog) (name : String) : Except QueryError Field :=
  match catalog.get? name with
  | some field => .ok field
  | none => .error (.unknown name catalog.object catalog.names)

/-- Checks the label and the sub-field of a path against an index. Where `complete` is set, neither
may be missing. -/
def FieldIndex.check (index : FieldIndex) (path : FieldPath) (complete : Bool) :
    Except QueryError Unit :=
  let fault (fault : PathFault) : Except QueryError Unit := .error (.ambiguousPath path.text fault)
  let names := index.subfields.map Subfield.name
  match path.label, path.subfield with
  | none, _ => if complete then fault (.labelRequired index.labels) else .ok ()
  | some label, subfield =>
    if !index.hasLabel label then fault (.unknownLabel label index.labels)
    else
      match subfield with
      | none =>
        if complete && !index.subfields.isEmpty then fault (.subfieldRequired names) else .ok ()
      | some name =>
        if index.subfields.isEmpty then fault (.noSubfields path.field)
        else if (index.subfield? name).isNone then fault (.unknownSubfield name names)
        else .ok ()

/-! ### The field of a lookup -/

/-- What a lookup is about: a field of the catalog, and the path to it. -/
structure Target where
  field : Field
  path : FieldPath

namespace Target

/-- The kind that literals have to fit. Sub-fields are compared as text. -/
def kind (target : Target) : FieldKind :=
  match target.path.subfield with
  | some _ => .text
  | none => target.field.kind

/-- Whether a lookup tests the elements of a list. A label selects a single entry. -/
def isMultiValued (target : Target) : Bool :=
  target.field.isList && !target.field.isIndexed

/-- The last part of a path's text. -/
def lastPart (text : String) : String :=
  match Text.splitLast text.toList with
  | some (_, tail) => String.ofList tail
  | none => text

/-- Checks that the parts of a path suit its field, for a lookup with the given key. -/
def checkParts (field : Field) (path : FieldPath) (text key : String) : Except QueryError Unit :=
  let unknown (suffix : String) : Except QueryError Unit :=
    .error (.unsupportedLookup key (.unknownSuffix suffix))
  match field.index, path.subfield with
  | some index, some subfield =>
    if index.subfields.isEmpty then unknown subfield else index.check path true
  | some index, none => index.check path true
  | none, _ => if path.label.isSome then unknown (lastPart text) else .ok ()

/-- The target that the text of a path names, for a lookup with the given key. -/
def find (catalog : Catalog) (text key : String) : Except QueryError Target := do
  let unsupported (fault : LookupFault) : Except QueryError Target :=
    .error (.unsupportedLookup key fault)
  match FieldPath.split? text with
  | none => unsupported .malformedPath
  | some path =>
    let field ← catalog.field path.field
    if !field.searchable then unsupported (.notSearchable field.name)
    else if field.isList && field.kind = .record && !field.isIndexed then
      unsupported (.listOfRecords field.name)
    else do
      checkParts field path text key
      return ⟨field, path⟩

end Target

/-! ### Lookups -/

namespace Lookup

/-- Several literals of a field, each checked, at least one. -/
def coerceAll (field key : String) (kind : FieldKind) (values : List Value) :
    Except QueryError (List Value) :=
  if values.isEmpty then .error (Literal.invalid key (.list values) .emptyList)
  else values.mapM (Literal.coerce field kind)

/-- A lookup on the elements of a list: `contains` asks for all of the given values, `oneOf` for at
least one. -/
def resolveMembership (target : Target) (key : String) (operator : Operator) (value : Value) :
    Except QueryError Predicate :=
  let field := target.path.text
  if operator ≠ .contains ∧ operator ≠ .oneOf then
    .error (.unsupportedLookup key (.needsMembership field))
  else
    match value with
    | .list values => do
      let values ← coerceAll field key target.kind values
      if operator = .contains then
        return .allOf (values.map (Predicate.compare field .contains))
      else
        return .compare field .oneOf (.list values)
    | value => do
      return .compare field .contains (← Literal.coerce field target.kind value)

/-- A lookup on a single value. -/
def resolveScalar (target : Target) (key : String) (operator : Operator) (value : Value) :
    Except QueryError Predicate :=
  let field := target.path.text
  match operator, value with
  | .oneOf, .list values => do
    return .compare field .oneOf (.list (← coerceAll field key target.kind values))
  | .oneOf, value => do
    return .compare field .equal (← Literal.coerce field target.kind value)
  | _, .list values => .error (Literal.invalid field (.list values) .listForScalar)
  | operator, value =>
    if operator.isContainment && !target.kind.isTextual then
      .error (.unsupportedLookup key (.needsText operator.suffix field target.kind.name))
    else do
      return .compare field operator (← Literal.coerce field target.kind value)

/-- A lookup in resolved form. -/
def resolve (catalog : Catalog) (lookup : Lookup) : Except QueryError Predicate := do
  let key := lookup.key
  let target ← Target.find catalog lookup.field key
  if lookup.operator = .present then
    match lookup.value with
    | .bool value => return .presence target.path.text value
    | value => .error (Literal.invalid key value .existsNeedsBool)
  else if target.isMultiValued then
    resolveMembership target key lookup.operator lookup.value
  else
    resolveScalar target key lookup.operator lookup.value

end Lookup

def Predicate.resolve (catalog : Catalog) (predicate : Predicate) : Except QueryError Predicate :=
  predicate.mapLeaves (Lookup.resolve catalog)

/-! ### Paths to fetch and to sort by -/

/-- The path that a text names, for fetching a field. Without a label the whole field is meant. -/
def FieldPath.ofText (catalog : Catalog) (text : String) : Except QueryError FieldPath := do
  match FieldPath.split? text with
  | none => .error (.ambiguousPath text .malformed)
  | some path =>
    let field ← catalog.field path.field
    match field.index with
    | some index => index.check path false
    | none =>
      if path.label.isSome then .error (.ambiguousPath text (.noLabels field.name)) else .ok ()
    return path

/-- A path to sort by, and the direction. -/
structure SortKey where
  path : FieldPath
  descending : Bool
  deriving DecidableEq

namespace SortKey

/-- The sort key that a text names; a leading hyphen reverses the direction. -/
def ofText (catalog : Catalog) (text : String) : Except QueryError SortKey := do
  match text.toList with
  | '-' :: rest => return ⟨← FieldPath.ofText catalog (String.ofList rest), true⟩
  | _ => return ⟨← FieldPath.ofText catalog text, false⟩

def text (key : SortKey) : String :=
  (if key.descending then "-" else "") ++ key.path.text

end SortKey

end Sift
