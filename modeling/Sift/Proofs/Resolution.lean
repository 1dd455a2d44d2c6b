/-
**What resolving accepts, and what it makes of a lookup.**

* `Target.Fits` — what a target has to be like: its field is known and can be searched, and the path
  names a label and a sub-field exactly where the field has them.
* `Target.find_eq_ok_iff` — a text leads to the targets that fit and that it spells.
* `Lookup.ResolvesTo` — the forms that a lookup on a target can be resolved to, one case each.
* `Lookup.resolvesTo_of_resolve` — a lookup that is resolved has a target, and one of those forms.
-/

import Sift.Proofs.Checks
import Sift.Resolution

namespace Sift

/-! ### Targets -/

/-- An index selects with a path when the path names one of its labels, and one of its sub-fields
exactly where it has any. -/
def FieldIndex.Selects (index : FieldIndex) (path : FieldPath) : Prop :=
  (∃ label ∈ index.labels, path.label = some label) ∧
    match path.subfield with
    | none => index.subfields = []
    | some name => (index.subfield? name).isSome

/-- A field accepts a path that names a label exactly where the field is indexed. -/
def Field.Accepts (field : Field) (path : FieldPath) : Prop :=
  match field.index with
  | none => path.label = none
  | some index => index.Selects path

/-- A complete path passes the check of an index when the index selects with it. -/
theorem FieldIndex.check_eq_ok_iff {index : FieldIndex} {path : FieldPath} :
    index.check path true = .ok () ↔ index.Selects path := by
  obtain ⟨field, label, subfield⟩ := path
  cases label with
  | none => simp [check, Selects]
  | some label =>
    by_cases known : label ∈ index.labels
    · cases subfield with
      | none => simp [check, Selects, hasLabel, known]
      | some name =>
        by_cases plain : index.subfields = []
        · simp [check, Selects, hasLabel, known, plain, subfield?]
        · cases found : index.subfield? name <;>
            simp [check, Selects, hasLabel, known, plain, found]
    · simp [check, Selects, hasLabel, known]

namespace Target

/-- The parts of a path pass when the field accepts them. The key only serves the error. -/
theorem checkParts_eq_ok_iff {field : Field} {path : FieldPath} {text key : String} :
    checkParts field path text key = .ok () ↔ field.Accepts path := by
  unfold checkParts Field.Accepts
  cases indexed : field.index with
  | none => cases path.label <;> simp
  | some index =>
    show _ ↔ index.Selects path
    rw [← FieldIndex.check_eq_ok_iff]
    cases named : path.subfield with
    | none => exact Iff.rfl
    | some name =>
      by_cases plain : index.subfields = []
      · have refused : ¬ index.check path true = .ok () := by
          rw [FieldIndex.check_eq_ok_iff, FieldIndex.Selects, named]
          simp [FieldIndex.subfield?, plain]
        simp [plain, refused]
      · simp [plain]

/-- **What a lookup can be about**: a known field that can be searched, under a path that it
accepts, and no whole list of records. -/
structure Fits (catalog : Catalog) (target : Target) : Prop where
  known : catalog.get? target.path.field = some target.field
  searchable : target.field.searchable = true
  scalars : ¬ (target.field.isList && target.field.kind = .record && !target.field.isIndexed) = true
  accepted : target.field.Accepts target.path

/-- **A text leads to a target when it spells the path of one that fits.** -/
theorem find_eq_ok_iff {catalog : Catalog} {text key : String} {target : Target} :
    find catalog text key = .ok target ↔
      FieldPath.split? text = some target.path ∧ target.Fits catalog := by
  unfold find
  cases split : FieldPath.split? text with
  | none => simp
  | some path =>
    show (catalog.field path.field >>= _) = _ ↔ _
    rw [bind_eq_ok_iff]
    constructor
    · rintro ⟨field, known, run⟩
      have known : catalog.get? path.field = some field := by
        unfold Catalog.field at known
        split at known
        · cases known; assumption
        · cases known
      split at run
      · cases run
      · split at run
        · cases run
        · rename_i searchable scalars
          obtain ⟨_, accepted, same⟩ := bind_eq_ok_iff.mp run
          cases same
          exact ⟨rfl, known, by simpa using searchable, scalars, checkParts_eq_ok_iff.mp accepted⟩
    · rintro ⟨same, fits⟩
      cases same
      refine ⟨target.field, by rw [Catalog.field, fits.known], ?_⟩
      rw [if_neg (by simp [fits.searchable]), if_neg fits.scalars]
      exact bind_eq_ok_iff.mpr ⟨(), checkParts_eq_ok_iff.mpr fits.accepted, rfl⟩

/-- The key plays no part in which target is found. -/
theorem find_key {catalog : Catalog} {text key : String} {target : Target}
    (found : find catalog text key = .ok target) (other : String) :
    find catalog text other = .ok target :=
  find_eq_ok_iff.mpr (find_eq_ok_iff.mp found)

/-- A target is found again under the text of its path, whatever the key. -/
theorem find_text {catalog : Catalog} {text key : String} {target : Target}
    (found : find catalog text key = .ok target) (other : String) :
    find catalog target.path.text other = .ok target := by
  obtain ⟨split, fits⟩ := find_eq_ok_iff.mp found
  refine find_eq_ok_iff.mpr ⟨?_, fits⟩
  rw [FieldPath.text_of_split? split, split]

end Target

/-! ### Lookups -/

theorem Value.isList_eq_false {value : Value} (scalar : ∀ values, value = .list values → False) :
    value.isList = false := by
  cases value with
  | list values => exact (scalar values rfl).elim
  | _ => rfl

namespace Lookup

/-- The literals of a target, checked one after another, are at least one. -/
theorem coerceAll_eq_ok_iff {field key : String} {kind : FieldKind} {values literals : List Value} :
    coerceAll field key kind values = .ok literals ↔
      values ≠ [] ∧ values.mapM (Literal.coerce field kind) = .ok literals := by
  cases values with
  | nil => simp [coerceAll]
  | cons value rest => simp [coerceAll]

/-- **The forms of a resolved lookup on a target**, by its operator and its value. -/
inductive ResolvesTo (target : Target) : Operator → Value → Predicate → Prop
  /-- Whether there is a value. -/
  | presence (value : Bool) :
      ResolvesTo target .present (.bool value) (.presence target.path.text value)
  /-- A list that has every one of some elements: one lookup for each. -/
  | everyElement {values literals : List Value} (several : target.isMultiValued = true)
      (given : values ≠ [])
      (coerced : values.mapM (Literal.coerce target.path.text target.kind) = .ok literals) :
      ResolvesTo target .contains (.list values)
        (.allOf (literals.map (.compare target.path.text .contains)))
  /-- A list that has one element. -/
  | element {operator : Operator} {value literal : Value} (several : target.isMultiValued = true)
      (membership : operator = .contains ∨ operator = .oneOf) (scalar : value.isList = false)
      (coerced : Literal.coerce target.path.text target.kind value = .ok literal) :
      ResolvesTo target operator value (.compare target.path.text .contains literal)
  /-- One of several literals. -/
  | alternatives {values literals : List Value} (given : values ≠ [])
      (coerced : values.mapM (Literal.coerce target.path.text target.kind) = .ok literals) :
      ResolvesTo target .oneOf (.list values) (.compare target.path.text .oneOf (.list literals))
  /-- One literal in the place of several. -/
  | alternative {value literal : Value} (single : target.isMultiValued = false)
      (scalar : value.isList = false)
      (coerced : Literal.coerce target.path.text target.kind value = .ok literal) :
      ResolvesTo target .oneOf value (.compare target.path.text .equal literal)
  /-- Any other test of a single value. -/
  | scalar {operator : Operator} {value literal : Value} (single : target.isMultiValued = false)
      (notPresent : operator ≠ .present) (notOneOf : operator ≠ .oneOf)
      (textual : operator.isContainment = true → target.kind.isTextual = true)
      (scalar : value.isList = false)
      (coerced : Literal.coerce target.path.text target.kind value = .ok literal) :
      ResolvesTo target operator value (.compare target.path.text operator literal)

/-- A lookup on a list is resolved to one of the forms. -/
theorem resolvesTo_of_resolveMembership {target : Target} {key : String} {operator : Operator}
    {value : Value} {predicate : Predicate} (several : target.isMultiValued = true)
    (resolved : resolveMembership target key operator value = .ok predicate) :
    ResolvesTo target operator value predicate := by
  unfold resolveMembership at resolved
  split at resolved
  · cases resolved
  · rename_i refused
    have membership : operator = .contains ∨ operator = .oneOf := by
      by_cases contains : operator = .contains
      · exact .inl contains
      · exact .inr (Classical.not_not.mp fun other => refused ⟨contains, other⟩)
    split at resolved
    · rename_i values
      obtain ⟨literals, checked, run⟩ := bind_eq_ok_iff.mp resolved
      obtain ⟨given, coerced⟩ := coerceAll_eq_ok_iff.mp checked
      split at run
      · rename_i contains
        cases contains
        cases run
        exact .everyElement several given coerced
      · rename_i other
        cases membership.resolve_left other
        cases run
        exact .alternatives given coerced
    · rename_i scalar
      obtain ⟨literal, coerced, run⟩ := bind_eq_ok_iff.mp resolved
      cases run
      exact .element several membership (Value.isList_eq_false scalar) coerced

/-- A lookup on a single value is resolved to one of the forms. -/
theorem resolvesTo_of_resolveScalar {target : Target} {key : String} {operator : Operator}
    {value : Value} {predicate : Predicate} (single : target.isMultiValued = false)
    (notPresent : operator ≠ .present)
    (resolved : resolveScalar target key operator value = .ok predicate) :
    ResolvesTo target operator value predicate := by
  unfold resolveScalar at resolved
  split at resolved
  · obtain ⟨literals, checked, run⟩ := bind_eq_ok_iff.mp resolved
    obtain ⟨given, coerced⟩ := coerceAll_eq_ok_iff.mp checked
    cases run
    exact .alternatives given coerced
  · rename_i scalar
    obtain ⟨literal, coerced, run⟩ := bind_eq_ok_iff.mp resolved
    cases run
    exact .alternative single (Value.isList_eq_false scalar) coerced
  · cases resolved
  · rename_i notOneOf scalar _
    split at resolved
    · cases resolved
    · rename_i refused
      obtain ⟨literal, coerced, run⟩ := bind_eq_ok_iff.mp resolved
      cases run
      refine .scalar single notPresent notOneOf ?_ (Value.isList_eq_false scalar)
        coerced
      simpa using refused

/-- **A lookup that is resolved has a target, and takes one of the forms.** -/
theorem resolvesTo_of_resolve {catalog : Catalog} {lookup : Lookup} {predicate : Predicate}
    (resolved : lookup.resolve catalog = .ok predicate) :
    ∃ target, Target.find catalog lookup.field lookup.key = .ok target ∧
      ResolvesTo target lookup.operator lookup.value predicate := by
  obtain ⟨target, found, run⟩ := bind_eq_ok_iff.mp resolved
  refine ⟨target, found, ?_⟩
  split at run
  · rename_i present
    rw [present]
    split at run
    · rename_i value same
      rw [same]
      cases run
      exact .presence value
    · cases run
  · rename_i notPresent
    cases several : target.isMultiValued with
    | true =>
      rw [if_pos several] at run
      exact resolvesTo_of_resolveMembership several run
    | false =>
      rw [if_neg (by simp [several])] at run
      exact resolvesTo_of_resolveScalar several notPresent run

end Lookup

end Sift
