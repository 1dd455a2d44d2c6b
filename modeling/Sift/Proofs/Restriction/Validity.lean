/-
**Whatever is compiled is a restriction that fits the catalog.**

`Restriction.Valid` says of the nodes of a restriction, by the catalog alone, what the store relies
on: what groups are made of, what a field reference refers to, which values are compared with which
fields, and which tests are made on lists and on texts.

* `FieldUri.Refers` — the field that a reference names, with the label, the sub-field and the name in
  the store that go with it.
* `FieldKind.Holds` — the values of a kind.
* `Lookup.valid_of_resolve` — one lookup in resolved form gives a valid restriction.
* `Predicate.valid_of_compile` — so does every predicate that compiles to one.
-/

import Sift.Proofs.Predicate.Resolved

namespace Sift

/-! ### What the nodes of a restriction have to be like -/

namespace Field

/-- The labels of the entries of a field, none without an index. -/
def labels (field : Field) : List String :=
  (field.index.map FieldIndex.labels).getD []

/-- The sub-fields of the entries of a field, none without an index. -/
def subfields (field : Field) : List Subfield :=
  (field.index.map FieldIndex.subfields).getD []

end Field

namespace FieldUri

/-- **What a reference refers to**: a field that can be searched and is no whole list of records. A
label selects an entry exactly where the field is indexed, and a sub-field is named exactly where the
field declares any; then the name in the store is that of the sub-field. -/
structure Refers (catalog : Catalog) (reference : FieldUri) (field : Field) : Prop where
  known : catalog.get? reference.path.field = some field
  searchable : field.searchable = true
  scalars : field.isList = true → field.kind = .record → field.isIndexed = true
  labeled : reference.label.isSome = field.isIndexed
  declared : ∀ label ∈ reference.label, label ∈ field.labels
  samePath : reference.path.label = reference.label
  narrowed : reference.path.subfield.isSome = !field.subfields.isEmpty
  uri : match reference.path.subfield with
    | none => reference.uri = field.uri
    | some name => ∃ subfield ∈ field.subfields, subfield.name = name ∧ reference.uri = subfield.uri

/-- The kind of the values under a reference. Sub-fields hold texts. -/
def kindOn (reference : FieldUri) (field : Field) : FieldKind :=
  if reference.path.subfield.isSome then .text else field.kind

end FieldUri

/-- **The values of a kind**, as they are compared: a choice is one of those declared, and a
timestamp is given at offset zero. Records have no values of their own. -/
inductive FieldKind.Holds : FieldKind → Value → Prop
  | text (value : String) : Holds .text (.text value)
  | choice {choices : List String} {value : String} (listed : value ∈ choices) :
      Holds (.choice choices) (.text value)
  | boolean (value : Bool) : Holds .boolean (.bool value)
  | integer (value : Int64) : Holds .integer (.int value)
  | decimal (value : Decimal) : Holds .decimal (.decimal value)
  | timestamp {value : Timestamp} (utc : value.offset = .zero) :
      Holds .timestamp (.timestamp value)
  | date (value : Date) : Holds .date (.date value)

/-- A literal suits a kind when it has a value of that kind, with the text of that value. -/
structure Literal.Suits (kind : FieldKind) (literal : Literal) : Prop where
  value : kind.Holds literal.value
  text : Literal.wireText? literal.value = some literal.text

/-- **What every node of a restriction is like.** Groups have at least two parts; on a list without
an index there is only equality and presence; and only texts are looked into. -/
inductive Restriction.Valid (catalog : Catalog) : Restriction → Prop
  | and {children : List Restriction} (several : 2 ≤ children.length)
      (each : ∀ child ∈ children, Valid catalog child) : Valid catalog (.and children)
  | or {children : List Restriction} (several : 2 ≤ children.length)
      (each : ∀ child ∈ children, Valid catalog child) : Valid catalog (.or children)
  | not {child : Restriction} (inner : Valid catalog child) : Valid catalog (.not child)
  | compare {reference : FieldUri} {field : Field} {comparison : Comparison} {literal : Literal}
      (refers : reference.Refers catalog field) (suits : literal.Suits (reference.kindOn field))
      (onLists : field.isList = true → field.isIndexed = false → comparison = .equal) :
      Valid catalog (.compare reference comparison literal)
  | contains {reference : FieldUri} {field : Field} {mode : ContainmentMode} {casing : Casing}
      {literal : Literal} (refers : reference.Refers catalog field)
      (suits : literal.Suits (reference.kindOn field))
      (textual : (reference.kindOn field).isTextual = true)
      (notOnLists : ¬ (field.isList = true ∧ field.isIndexed = false)) :
      Valid catalog (.contains reference mode casing literal)
  | present {reference : FieldUri} {field : Field} (refers : reference.Refers catalog field) :
      Valid catalog (.present reference)

/-! ### References and literals -/

/-- A path that was split has a label wherever it has a sub-field. -/
theorem FieldPath.subfield_of_split? {text : String} {path : FieldPath}
    (split : split? text = some path) (unlabeled : path.label = none) : path.subfield = none := by
  simp only [split?] at split
  split at split
  · cases split
  · split at split <;> cases split <;> first | rfl | cases unlabeled

/-- An index that selects with a path has the sub-field that the path names, or none at all. -/
theorem FieldIndex.Selects.subfield {index : FieldIndex} {path : FieldPath}
    (selects : index.Selects path) :
    (path.subfield = none ∧ index.subfields = []) ∨
      ∃ subfield ∈ index.subfields, path.subfield = some subfield.name ∧
        index.subfield? subfield.name = some subfield := by
  have narrowed := selects.2
  cases named : path.subfield with
  | none =>
    rw [named] at narrowed
    exact .inl ⟨rfl, narrowed⟩
  | some name =>
    rw [named] at narrowed
    obtain ⟨subfield, found⟩ := Option.isSome_iff_exists.mp narrowed
    have called : subfield.name = name := by simpa using List.find?_some found
    exact .inr ⟨subfield, List.mem_of_find?_eq_some found, by rw [called], by rw [called, found]⟩

namespace Target

variable {catalog : Catalog} {target : Target} {text key : String}

@[simp] theorem fieldUri_label (target : Target) : target.fieldUri.label = target.path.label := rfl

@[simp] theorem fieldUri_path (target : Target) : target.fieldUri.path = target.path := rfl

theorem kindOn_fieldUri (target : Target) : target.fieldUri.kindOn target.field = target.kind := by
  show (if target.path.subfield.isSome then _ else _) = _
  unfold kind
  cases target.path.subfield <;> rfl

theorem isMultiValued_iff :
    target.isMultiValued = true ↔ target.field.isList = true ∧ target.field.isIndexed = false := by
  simp [isMultiValued]

/-- **The name of a target refers to its field.** -/
theorem refers_of_find (found : find catalog text key = .ok target) :
    target.fieldUri.Refers catalog target.field := by
  obtain ⟨split, known, searchable, scalars, accepted⟩ := find_eq_ok_iff.mp found
  have scalars : target.field.isList = true → target.field.kind = .record →
      target.field.isIndexed = true := by simpa using scalars
  unfold Field.Accepts at accepted
  cases indexed : target.field.index with
  | none =>
    rw [indexed] at accepted
    have unlabeled : target.path.label = none := accepted
    have whole := FieldPath.subfield_of_split? split unlabeled
    refine ⟨known, searchable, scalars, ?_, ?_, rfl, ?_, ?_⟩
    · simp [unlabeled, Field.isIndexed, indexed]
    · simp [unlabeled]
    · simp [whole, Field.subfields, indexed]
    · simp [fieldUri, whole]
  | some index =>
    rw [indexed] at accepted
    obtain ⟨label, listed, labeled⟩ := accepted.1
    have subfields : target.field.subfields = index.subfields := by simp [Field.subfields, indexed]
    have selected : target.fieldUri.label.isSome = target.field.isIndexed := by
      simp [labeled, Field.isIndexed, indexed]
    have declared : ∀ label ∈ target.fieldUri.label, label ∈ target.field.labels := by
      simpa [labeled, Field.labels, indexed] using listed
    rcases accepted.subfield with ⟨whole, none⟩ | ⟨subfield, member, named, found⟩
    · refine ⟨known, searchable, scalars, selected, declared, rfl, ?_, ?_⟩
      · simp [whole, subfields, none]
      · simp [fieldUri, whole]
    · have uri : target.fieldUri.uri = subfield.uri := by simp [fieldUri, named, indexed, found]
      refine ⟨known, searchable, scalars, selected, declared, rfl, ?_, ?_⟩
      · simp [named, subfields, List.ne_nil_of_mem member]
      · simp only [fieldUri_path, named, subfields]
        exact ⟨subfield, member, rfl, uri⟩

end Target

/-- A literal that was checked against a kind is a value of that kind. -/
theorem FieldKind.holds_of_coerce {field : String} {kind : FieldKind} {value literal : Value}
    (coerced : Literal.coerce field kind value = .ok literal) : kind.Holds literal := by
  unfold Literal.coerce at coerced
  split at coerced
  case h_2 choices text =>
    split at coerced
    · rename_i listed
      cases coerced
      exact .choice (by simpa using listed)
    · cases coerced
  all_goals cases coerced
  · exact .text _
  · exact .boolean _
  · exact .integer _
  · exact .decimal _
  · exact .decimal _
  · exact .timestamp rfl
  · exact .date _

/-- The literal made of a checked value suits the kind. -/
theorem Literal.suits_of_make {name field : String} {kind : FieldKind} {given value : Value}
    {literal : Literal} (coerced : coerce name kind given = .ok value)
    (made : make field value = .ok literal) : literal.Suits kind := by
  have same := (of_make made).1
  exact ⟨by rw [same]; exact FieldKind.holds_of_coerce coerced, literal.agree⟩

/-! ### Groups -/

namespace Restriction

variable {catalog : Catalog}

/-- Several alternatives that are valid are valid together, and so is one alone. -/
theorem valid_orOf {alternatives : List Restriction} (given : alternatives ≠ [])
    (each : ∀ alternative ∈ alternatives, Valid catalog alternative) :
    Valid catalog (orOf alternatives) := by
  match alternatives with
  | [] => exact absurd rfl given
  | [alternative] => exact each alternative List.mem_cons_self
  | first :: second :: rest => exact .or (by simp) each

/-- Valid parts are joined to a valid restriction. -/
theorem valid_connect {connective : Connective} {parts : List Restriction}
    {restriction : Restriction} (each : ∀ part ∈ parts, Valid catalog part)
    (joined : connect connective parts = some restriction) : Valid catalog restriction := by
  match parts with
  | [] => cases connective <;> cases joined
  | [part] =>
    have only := each part List.mem_cons_self
    cases connective with
    | notAll =>
      cases joined
      exact .not only
    | all | any =>
      cases joined
      exact only
  | first :: second :: rest =>
    have several : 2 ≤ (first :: second :: rest).length := by simp
    cases connective with
    | all =>
      cases joined
      exact .and several each
    | any =>
      cases joined
      exact .or several each
    | notAll =>
      cases joined
      exact .not (.and several each)

end Restriction

/-! ### Lookups -/

namespace Lookup

variable {catalog : Catalog} {target : Target} {text key : String} {value : Value}

/-- Equality with a checked literal is valid on every field, and on all but lists so is every
comparison. -/
theorem valid_restrictionOf_compare (found : Target.find catalog text key = .ok target)
    {comparison : Comparison} {given : Value} {restriction : Restriction}
    (onLists : target.isMultiValued = true → comparison = .equal)
    (coerced : Literal.coerce target.path.text target.kind given = .ok value)
    (compiled : restrictionOf target value (.compare comparison) = .ok restriction) :
    restriction.Valid catalog := by
  obtain ⟨literal, made, same⟩ := bind_eq_ok_iff.mp compiled
  cases same
  refine .compare (Target.refers_of_find found) ?_ fun list plain =>
    onLists (Target.isMultiValued_iff.mpr ⟨list, plain⟩)
  rw [Target.kindOn_fieldUri]
  exact Literal.suits_of_make coerced made

/-- A look into text with a checked literal is valid on a single text. -/
theorem valid_restrictionOf_contains (found : Target.find catalog text key = .ok target)
    {mode : ContainmentMode} {casing : Casing} {given : Value} {restriction : Restriction}
    (single : target.isMultiValued = false) (textual : target.kind.isTextual = true)
    (coerced : Literal.coerce target.path.text target.kind given = .ok value)
    (compiled : restrictionOf target value (.contains mode casing) = .ok restriction) :
    restriction.Valid catalog := by
  obtain ⟨literal, made, same⟩ := bind_eq_ok_iff.mp compiled
  cases same
  have suits := Literal.suits_of_make coerced made
  rw [← Target.kindOn_fieldUri] at suits textual
  refine .contains (Target.refers_of_find found) suits textual fun list => ?_
  rw [Target.isMultiValued_iff.mpr list] at single
  cases single

/-- **A lookup in resolved form compiles to a valid restriction.** -/
theorem valid_of_resolve {lookup : Lookup} {restriction : Restriction}
    (fixed : lookup.resolve catalog = .ok (.leaf lookup))
    (compiled : lookup.compile catalog = .ok restriction) : restriction.Valid catalog := by
  obtain ⟨target, found, form⟩ := resolvesTo_of_resolve fixed
  rw [compile_eq found] at compiled
  obtain ⟨field, operator, value⟩ := lookup
  generalize same : Predicate.leaf ⟨field, operator, value⟩ = leaf at form
  cases form with
  | presence value =>
    have test : target.test .present = .present := by simp [Target.test, Operator.test]
    simp only [test] at compiled
    cases compiled
    exact .present (Target.refers_of_find found)
  | everyElement =>
    rw [Predicate.allOf_compare] at same
    cases same
  | element several membership scalar coerced =>
    cases same
    have test : target.test .contains = .compare .equal := by simp [Target.test, several]
    simp only [test] at compiled
    exact valid_restrictionOf_compare found (fun _ => rfl) coerced compiled
  | @alternatives values literals given coerced =>
    cases same
    have test : target.test .oneOf = .oneOf := by simp [Target.test, Operator.test]
    simp only [test] at compiled
    obtain ⟨alternatives, made, same⟩ := bind_eq_ok_iff.mp compiled
    cases same
    have each := mapM_eq_ok_iff.mp made
    refine Restriction.valid_orOf ?_ fun alternative member => ?_
    · rintro rfl
      exact given (List.forall₂_nil_right_iff.mp each)
    · obtain ⟨literal, here, made⟩ := exists_of_forall₂_mem each member
      obtain ⟨again, checked⟩ := Literal.mapM_coerce_again coerced
      exact valid_restrictionOf_compare found (fun _ => rfl) ((checked literal here).again _) made
  | alternative => cases same
  | scalar single notPresent notOneOf textual scalar coerced =>
    cases same
    have test : target.test operator = operator.test := by simp [Target.test, single]
    simp only [test] at compiled
    cases asked : operator.test with
    | compare comparison =>
      rw [asked] at compiled
      exact valid_restrictionOf_compare found (by simp [single]) coerced compiled
    | contains mode casing =>
      rw [asked] at compiled
      have containment : operator.isContainment = true := by cases operator <;> cases asked <;> rfl
      exact valid_restrictionOf_contains found single (textual containment) coerced compiled
    | oneOf => cases operator <;> cases asked; exact absurd rfl notOneOf
    | present => cases operator <;> cases asked; exact absurd rfl notPresent

end Lookup

/-! ### Predicates -/

namespace Predicate

variable {catalog : Catalog} {predicate : Predicate}

/-- In a predicate in resolved form, every lookup is resolved to itself. -/
theorem resolve_leaf_of_resolved (fixed : predicate.resolve catalog = .ok predicate)
    {lookup : Lookup} (member : lookup ∈ predicate.lookups) :
    lookup.resolve catalog = .ok (.leaf lookup) := by
  induction predicate using tree_induction with
  | leaf here =>
    cases List.mem_singleton.mp member
    exact fixed
  | group connective children ih =>
    obtain ⟨parts, each, same⟩ := resolve_group_eq_ok_iff.mp fixed
    cases same
    rw [lookups_group] at member
    obtain ⟨child, here, inside⟩ := List.mem_flatMap.mp member
    exact ih child here (List.forall₂_same.mp each child here) inside

/-- Where every lookup compiles to a valid restriction, so does the predicate. -/
theorem valid_of_compileResolved {restriction : Restriction}
    (each : ∀ lookup ∈ predicate.lookups, ∀ part, lookup.compile catalog = .ok part →
      part.Valid catalog)
    (compiled : predicate.compileResolved catalog = .ok (some restriction)) :
    restriction.Valid catalog := by
  induction predicate using tree_induction generalizing restriction with
  | leaf lookup =>
    obtain ⟨part, made, same⟩ := bind_eq_ok_iff.mp compiled
    cases same
    exact each lookup (List.mem_singleton.mpr rfl) _ made
  | group connective children ih =>
    obtain ⟨compiles, parts, reordered, joined⟩ := of_compileResolved_group compiled
    rw [lookups_group] at each
    refine Restriction.valid_connect (fun part member => ?_) joined.symm
    obtain ⟨child, here, made⟩ := List.mem_filterMap.mp (reordered.mem_iff.mp member)
    obtain ⟨result, compiled⟩ := compiles child here
    rw [restriction?_of_compileResolved compiled] at made
    cases made
    exact ih child here (fun lookup inside =>
      each lookup (List.mem_flatMap.mpr ⟨child, here, inside⟩)) compiled

/-- **Whatever a predicate compiles to is valid for the catalog**: every group has at least two
parts, every reference names a field that can be searched with the label, the sub-field and the name
that go with it, every literal is a value of the field's kind in its written form, only texts are
looked into, and on a list without an index there is only equality and presence. -/
theorem valid_of_compile {restriction : Restriction}
    (compiled : predicate.compile catalog = .ok (some restriction)) :
    restriction.Valid catalog := by
  obtain ⟨resolved, run, compiled⟩ := bind_eq_ok_iff.mp compiled
  have fixed := resolve_of_resolve run
  exact valid_of_compileResolved
    (fun lookup member part => Lookup.valid_of_resolve (resolve_leaf_of_resolved fixed member))
    compiled

/-- Conditions on a sub-field, on a list, on a choice and on a label, of which one says nothing. -/
def contactSample : Predicate :=
  .group .notAll [
    .compare "physical_addresses__Home__city" .startsWith (.text "Par"),
    .compare "categories" .contains (.list [.text "red", .text "blue"]),
    .group .any [.empty, .compare "importance" .oneOf (.list [.text "High", .text "Low"])],
    .compare "phone_numbers__CarPhone" .present (.bool false)]

theorem valid_of_compile_contactSample :
    ∃ restriction, contactSample.compile Catalog.standard = .ok (some restriction) ∧
      restriction.Valid Catalog.standard := by
  have compiles : (contactSample.compile Catalog.standard).toOption.join.isSome = true := by
    decide +kernel
  obtain ⟨restriction, known⟩ := Option.isSome_iff_exists.mp compiles
  have compiled := eq_ok_of_toOption (Option.join_eq_some_iff.mp known)
  exact ⟨restriction, compiled, valid_of_compile compiled⟩

end Predicate

end Sift
