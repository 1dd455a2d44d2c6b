/-
**Compiling keeps the meaning of a predicate.**

`Predicate.satisfiedBy_compile`: the restriction of a predicate is satisfied by an item exactly when
the predicate is true of it, and there is no restriction exactly when the predicate says nothing.
The truth of the predicate (`Predicate.truth` with `Lookup.holds`) is said of the tree as it was
given.

The way there has two halves, with the tree of resolved lookups in the middle.

* `Predicate.truth_resolve` — the first half: resolving one lookup keeps its truth
  (`Lookup.truth_of_resolvesTo`), although it may turn the lookup into a group.
* `Predicate.satisfiedBy_compileResolved` — the second half, from the resolved tree to the
  restriction.
-/

import Sift.Catalog.Standard
import Sift.Proofs.Predicate.Meaning
import Sift.Proofs.Resolution
import Sift.Proofs.Restriction.Compile

namespace Sift

/-! ### What is stored, element by element -/

/-- A comparison other than inequality holds when it holds of some element. -/
theorem Comparison.holdsAt_valueAt {comparison : Comparison} (positive : comparison ≠ .notEqual)
    (literal : Value) (item : Item) (path : FieldPath) :
    comparison.holdsAt literal (item.valueAt path)
      = (item.elementsAt path).any (comparison.holds literal) := by
  unfold Item.elementsAt
  cases item.valueAt path with
  | none => cases comparison <;> first | rfl | exact absurd rfl positive
  | some stored =>
    cases stored with
    | list values => cases comparison <;> first | rfl | exact absurd rfl positive
    | _ => simp [holdsAt, holds]

/-- Inequality holds when no element is equal. -/
theorem Comparison.notEqual_holdsAt_valueAt (literal : Value) (item : Item) (path : FieldPath) :
    Comparison.notEqual.holdsAt literal (item.valueAt path)
      = !(item.elementsAt path).any (Comparison.equal.holds literal) := by
  unfold Item.elementsAt
  cases item.valueAt path with
  | none => rfl
  | some stored =>
    cases stored with
    | list values => rfl
    | _ =>
      simp only [holdsAt, holds, Option.bind_some, List.any_cons, List.any_nil, Bool.or_false]
      cases Value.compare _ literal <;> rfl

/-- A look into text holds when it holds of some element. -/
theorem Restriction.containsAt_valueAt (mode : ContainmentMode) (casing : Casing)
    (needle : String) (item : Item) (path : FieldPath) :
    containsAt mode casing needle (item.valueAt path)
      = (item.elementsAt path).any (textAgrees mode casing needle) := by
  unfold Item.elementsAt
  cases item.valueAt path with
  | none => rfl
  | some stored => cases stored <;> simp [containsAt]

/-- Something is stored exactly where an item has a value. -/
theorem Restriction.isStored_valueAt (item : Item) (path : FieldPath) :
    isStored (item.valueAt path) = item.hasAt path := by
  unfold Item.hasAt
  cases item.valueAt path with
  | none => rfl
  | some stored =>
    cases stored with
    | list values => cases values <;> rfl
    | _ => rfl

/-! ### From the tree as it was given to the resolved tree -/

namespace Operator

/-- A comparison of single values is the test of its operator. -/
theorem holds_eq_passes (operator : Operator) {comparison : Comparison}
    (test : operator.test = .compare comparison) (positive : comparison ≠ .notEqual)
    (literal : Value) : comparison.holds literal = operator.passes literal := by
  funext stored
  unfold Comparison.holds passes
  cases operator <;> cases test <;> first
    | exact absurd rfl positive
    | cases stored.compare literal with
      | none => rfl
      | some order => cases order <;> rfl

/-- A look into single texts is the test of its operator. -/
theorem textAgrees_eq_passes {operator : Operator} {mode : ContainmentMode} {casing : Casing}
    (test : operator.test = .contains mode casing) (given : String) :
    Restriction.textAgrees mode casing given = operator.passes (.text given) := by
  funext stored
  have agree : ∀ text : String, mode.agrees (casing.fold given) (casing.fold text)
      = operator.agrees given text := by
    intro text
    refine Bool.eq_iff_iff.mpr ?_
    cases operator <;> cases test <;>
      simp [ContainmentMode.agrees, Casing.fold, agrees, Text.occursIn_iff, Text.startsWith_iff,
        String.toList_inj]
  have containment : operator.isContainment = true := by cases operator <;> cases test <;> rfl
  cases stored with
  | text text => simp only [Restriction.textAgrees, Value.text?, passes, containment, agree]; rfl
  | _ => simp [Restriction.textAgrees, Value.text?, passes, containment]

/-- **The test of an operator holds of what is stored when it holds of some element**, and
inequality when no element is equal. -/
theorem holds_valueAt {operator : Operator} {literal : Value} (notPresent : operator ≠ .present)
    (notOneOf : operator ≠ .oneOf)
    (textual : operator.isContainment = true → ∃ given, literal = .text given) (item : Item)
    (path : FieldPath) :
    operator.test.holds literal (item.valueAt path)
      = if operator = .notEqual then !(item.elementsAt path).any (equal.passes literal)
        else (item.elementsAt path).any (operator.passes literal) := by
  split
  · rename_i same
    rw [same]
    refine (Comparison.notEqual_holdsAt_valueAt literal item path).trans ?_
    rw [holds_eq_passes .equal rfl (by decide)]
  · rename_i positive
    cases test : operator.test with
    | compare comparison =>
      have comparisonPositive : comparison ≠ .notEqual := by
        rintro rfl
        cases operator <;> cases test
        exact positive rfl
      refine (Comparison.holdsAt_valueAt comparisonPositive literal item path).trans ?_
      rw [holds_eq_passes operator test comparisonPositive]
    | contains mode casing =>
      obtain ⟨given, rfl⟩ := textual (by cases operator <;> cases test <;> rfl)
      refine (Restriction.containsAt_valueAt mode casing given item path).trans ?_
      rw [textAgrees_eq_passes test]
    | oneOf => cases operator <;> cases test; exact absurd rfl notOneOf
    | present => cases operator <;> cases test; exact absurd rfl notPresent

end Operator

/-- The literals of a textual kind are texts. -/
theorem Literal.text_of_coerce {field : String} {kind : FieldKind} {value literal : Value}
    (coerced : coerce field kind value = .ok literal) (textual : kind.isTextual = true) :
    ∃ given, literal = .text given := by
  cases kind with
  | text =>
    cases value with
    | text given => exact ⟨given, (Except.ok.inj coerced).symm⟩
    | _ => cases coerced
  | choice choices =>
    cases value with
    | text given =>
      simp only [coerce] at coerced
      split at coerced
      · exact ⟨given, (Except.ok.inj coerced).symm⟩
      · cases coerced
    | _ => cases coerced
  | _ => cases textual

namespace Lookup

variable {catalog : Catalog} {target : Target} {text key : String}

/-- A resolved lookup is about the target that it was found on. -/
theorem passes_compare (found : Target.find catalog text key = .ok target) (operator : Operator)
    (literal : Value) (item : Item) :
    passes catalog item ⟨target.path.text, operator, literal⟩
      = (target.test operator).holds literal (item.valueAt target.path) := by
  simp only [passes, Target.find_text found]

theorem somePasses_of_coerce {value literal : Value}
    (coerced : Literal.coerce target.path.text target.kind value = .ok literal) (item : Item)
    (operator : Operator) :
    somePasses target item operator value
      = (item.elementsAt target.path).any (operator.passes literal) := by
  rw [somePasses, coerced]

/-- Equality with a literal holds of what is stored when some element is equal. -/
theorem equal_holdsAt_valueAt {value literal : Value}
    (coerced : Literal.coerce target.path.text target.kind value = .ok literal) (item : Item) :
    Comparison.equal.holdsAt literal (item.valueAt target.path)
      = somePasses target item .equal value := by
  rw [somePasses_of_coerce coerced, Comparison.holdsAt_valueAt (by decide),
    Operator.holds_eq_passes .equal rfl (by decide)]

/-- What a lookup of a single value means. -/
theorem holdsOn_scalar {field : String} {operator : Operator} {value : Value}
    (notPresent : operator ≠ .present) (notOneOf : operator ≠ .oneOf)
    (single : target.isMultiValued = false) (scalar : value.isList = false) (item : Item) :
    holdsOn target item ⟨field, operator, value⟩
      = if operator = .notEqual then !somePasses target item .equal value
        else somePasses target item operator value := by
  cases operator with
  | present => exact absurd rfl notPresent
  | oneOf => exact absurd rfl notOneOf
  | contains =>
    cases value with
    | list values => cases scalar
    | _ => simp [holdsOn, single]
  | _ => simp [holdsOn]

/-- What a test of single elements means, on a list. -/
theorem holdsOn_element {field : String} {operator : Operator} {value : Value}
    (membership : operator = .contains ∨ operator = .oneOf)
    (several : target.isMultiValued = true) (scalar : value.isList = false) (item : Item) :
    holdsOn target item ⟨field, operator, value⟩ = somePasses target item .equal value := by
  cases value with
  | list values => cases scalar
  | _ => rcases membership with rfl | rfl <;> simp [holdsOn, several]

/-- All of some lookups on one field are true when each of them is. -/
theorem truth_allOf_compare {holds : Lookup → Bool} {field : String} {operator : Operator}
    {literals : List Value} (given : literals ≠ []) :
    (Predicate.allOf (literals.map (.compare field operator))).truth holds
      = some (literals.all fun literal => holds ⟨field, operator, literal⟩) := by
  have kept : (literals.map (Predicate.compare field operator)).filter (fun child => !child.isEmpty)
      = literals.map (.compare field operator) := by
    refine List.filter_eq_self.mpr fun child member => ?_
    obtain ⟨literal, -, rfl⟩ := List.mem_map.mp member
    rfl
  rw [Predicate.allOf, Predicate.groupOf, kept, Predicate.truth_group, List.filterMap_map]
  cases literals with
  | nil => exact absurd rfl given
  | cons first rest =>
    simp [Predicate.compare, Predicate.truth, Connective.truth, Function.comp_def]

/-- **Resolving a lookup keeps its truth.** -/
theorem truth_of_resolvesTo (found : Target.find catalog text key = .ok target)
    {operator : Operator} {value : Value} {predicate : Predicate}
    (form : ResolvesTo target operator value predicate) (field : String) (item : Item) :
    predicate.truth (passes catalog item)
      = some (holdsOn target item ⟨field, operator, value⟩) := by
  cases form with
  | presence value =>
    have stored : passes catalog item ⟨target.path.text, .present, .bool true⟩
        = item.hasAt target.path := by
      rw [passes_compare found, ← Restriction.isStored_valueAt]
      simp [Target.test, Operator.test, Operator.Test.holds]
    have means : holdsOn target item ⟨field, .present, .bool value⟩
        = (item.hasAt target.path == value) := rfl
    rw [means]
    cases value with
    | true =>
      show some (passes catalog item ⟨target.path.text, .present, .bool true⟩) = _
      rw [stored, beq_true]
    | false =>
      show Connective.notAll.truth [passes catalog item ⟨target.path.text, .present, .bool true⟩]
        = _
      rw [stored, beq_false]
      simp [Connective.truth]
  | @everyElement values literals several given coerced =>
    have each := mapM_eq_ok_iff.mp coerced
    rw [truth_allOf_compare (by rintro rfl; cases each; exact given rfl), holdsOn]
    refine congrArg some (all_eq_all_of_forall₂ each fun value _ literal coerced => ?_).symm
    rw [passes_compare found, ← equal_holdsAt_valueAt coerced]
    simp [Target.test, several, Operator.Test.holds]
  | @element _ value literal several membership scalar coerced =>
    show some (passes catalog item ⟨target.path.text, .contains, literal⟩) = _
    rw [passes_compare found, holdsOn_element membership several scalar,
      ← equal_holdsAt_valueAt coerced]
    simp [Target.test, several, Operator.Test.holds]
  | @alternatives values literals given coerced =>
    show some (passes catalog item ⟨target.path.text, .oneOf, .list literals⟩) = _
    have test : target.test .oneOf = .oneOf := by simp [Target.test, Operator.test]
    rw [passes_compare found, test]
    show some (literals.any fun literal =>
        Comparison.equal.holdsAt literal (item.valueAt target.path))
      = some (values.any (somePasses target item .equal))
    exact congrArg some (any_eq_any_of_forall₂ (mapM_eq_ok_iff.mp coerced)
      fun value _ literal coerced => (equal_holdsAt_valueAt coerced item).symm).symm
  | @alternative value literal single scalar coerced =>
    show some (passes catalog item ⟨target.path.text, .equal, literal⟩) = _
    have means : holdsOn target item ⟨field, .oneOf, value⟩
        = somePasses target item .equal value := by
      cases value with
      | list values => cases scalar
      | _ => rfl
    rw [passes_compare found, means, ← equal_holdsAt_valueAt coerced]
    simp [Target.test, Operator.test, Operator.Test.holds]
  | @scalar _ value literal single notPresent notOneOf textual scalar coerced =>
    show some (passes catalog item ⟨target.path.text, operator, literal⟩) = _
    have test : target.test operator = operator.test := by simp [Target.test, single]
    rw [passes_compare found, test, holdsOn_scalar notPresent notOneOf single scalar,
      somePasses_of_coerce coerced, somePasses_of_coerce coerced,
      Operator.holds_valueAt notPresent notOneOf fun containment =>
        Literal.text_of_coerce coerced (textual containment)]

theorem target?_of_find {lookup : Lookup}
    (found : Target.find catalog lookup.field key = .ok target) :
    lookup.target? catalog = some target := by
  obtain ⟨split, fits⟩ := Target.find_eq_ok_iff.mp found
  simp [target?, split, fits.known]

end Lookup

namespace Predicate

/-- A group is resolved when all its children are. -/
theorem resolve_group_eq_ok_iff {catalog : Catalog} {connective : Connective}
    {children : List Predicate} {resolved : Predicate} :
    (group connective children).resolve catalog = .ok resolved ↔
      ∃ parts, List.Forall₂ (fun child part => child.resolve catalog = .ok part) children parts ∧
        resolved = group connective parts := by
  show (mapLeavesAll _ children >>= _) = _ ↔ _
  rw [bind_eq_ok_iff, mapLeavesAll_eq_mapM]
  constructor
  · rintro ⟨parts, checked, same⟩
    exact ⟨parts, mapM_eq_ok_iff.mp checked, (Except.ok.inj same).symm⟩
  · rintro ⟨parts, each, rfl⟩
    exact ⟨parts, mapM_eq_ok_iff.mpr each, rfl⟩

/-- **Resolving keeps the truth of a predicate.** -/
theorem truth_resolve {catalog : Catalog} {predicate resolved : Predicate}
    (run : predicate.resolve catalog = .ok resolved) (item : Item) :
    resolved.truth (Lookup.passes catalog item) = predicate.truth (Lookup.holds catalog item) := by
  induction predicate using tree_induction generalizing resolved with
  | leaf lookup =>
    obtain ⟨target, found, form⟩ := Lookup.resolvesTo_of_resolve run
    rw [Lookup.truth_of_resolvesTo found form lookup.field item, truth, Lookup.holds,
      Lookup.target?_of_find found]
    rfl
  | group connective children ih =>
    obtain ⟨parts, each, rfl⟩ := resolve_group_eq_ok_iff.mp run
    rw [truth_group, truth_group]
    refine congrArg connective.truth ?_
    exact (filterMap_eq_filterMap_of_forall₂ each fun child member part resolved =>
      (ih child member resolved).symm).symm

/-- **Compiling keeps the meaning of a predicate.** An item satisfies the restriction of a predicate
exactly when the predicate is true of it, and there is no restriction exactly when the predicate
says nothing. -/
theorem satisfiedBy_compile {catalog : Catalog} {predicate : Predicate}
    {result : Option Restriction} (compiled : predicate.compile catalog = .ok result)
    (item : Item) :
    result.map (fun restriction => restriction.satisfiedBy item)
      = predicate.truth (Lookup.holds catalog item) := by
  obtain ⟨resolved, run, rest⟩ := bind_eq_ok_iff.mp compiled
  rw [satisfiedBy_compileResolved rest, truth_resolve run]

/-- Not all of three things, of which the last says nothing, and the second only what is within. -/
def nestedSample : Predicate :=
  .group .notAll [
    .compare "subject" .startsWith (.text "Re"),
    .group .any [.empty, .compare "categories" .contains (.list [.text "red", .text "blue"])],
    .group .notAll [.empty]]

/-- An item of which both things are true that `nestedSample` says not to be. -/
def nestedSampleItem : Item :=
  ⟨⟨"1", none⟩, [("subject", .text "Re: it"), ("categories", .list [.text "blue", .text "red"])]⟩

theorem satisfiedBy_compile_nestedSample :
    ∃ result, nestedSample.compile Catalog.standard = .ok result ∧
      result.map (fun restriction => restriction.satisfiedBy nestedSampleItem) = some false := by
  have compiles : (nestedSample.compile Catalog.standard).toBool = true := by decide +kernel
  obtain ⟨result, compiled⟩ := exists_ok_of_toBool compiles
  have truth : nestedSample.truth (Lookup.holds Catalog.standard nestedSampleItem)
      = some false := by decide +kernel
  exact ⟨result, compiled, (satisfiedBy_compile compiled nestedSampleItem).trans truth⟩

end Predicate

end Sift
