/-
**Predicates in resolved form.**

Resolving brings a predicate to a form that resolving leaves as it is. Every literal has a text on
the wire then, so that a predicate in this form always compiles: whatever can be wrong with a
predicate is found when it is resolved. Negating and combining do not lead out of the form.

* `Literal.checked_of_coerce` — a literal that was checked passes the check again, and has a text.
* `Lookup.resolve_eq_ok_iff` — a lookup is resolved to exactly the forms of `Lookup.ResolvesTo`.
* `Predicate.resolve_of_resolve` — what was resolved is in resolved form.
* `Predicate.exists_compile_iff` — a predicate compiles exactly when it can be resolved.
* `Predicate.Negation` — the forms of a negation, one case each.
* `Predicate.resolve_negate`, `Predicate.resolve_groupOf_of_resolved` — negations and combinations.
-/

import Sift.Proofs.Restriction.Meaning

namespace Sift

/-! ### Literals -/

namespace Literal

/-- What a literal is like once it was checked against a kind: the check leaves it as it is, and it
is a scalar with a text on the wire. -/
structure Checked (kind : FieldKind) (literal : Value) : Prop where
  again : ∀ field, coerce field kind literal = .ok literal
  wire : ∃ text, wireText? literal = some text
  scalar : literal.isList = false

/-- **A literal that was checked passes the check again**, under any name, and has a text. -/
theorem checked_of_coerce {field : String} {kind : FieldKind} {value literal : Value}
    (coerced : coerce field kind value = .ok literal) : Checked kind literal := by
  unfold coerce at coerced
  split at coerced
  case h_2 choices text =>
    split at coerced
    · rename_i known
      cases coerced
      exact ⟨fun _ => if_pos known, ⟨_, rfl⟩, rfl⟩
    · cases coerced
  all_goals first
    | cases coerced
      exact ⟨fun _ => rfl, ⟨_, rfl⟩, rfl⟩
    | cases coerced

/-- A value with a text on the wire makes a literal. -/
theorem exists_make {value : Value} (wire : ∃ text, wireText? value = some text) (field : String) :
    ∃ literal, make field value = .ok literal := by
  obtain ⟨text, known⟩ := wire
  unfold make
  split
  · exact ⟨_, rfl⟩
  · rename_i unknown
    rw [known] at unknown
    cases unknown

/-- Literals that were checked one by one pass together, and each is as a checked literal is. -/
theorem mapM_coerce_again {field : String} {kind : FieldKind} {values literals : List Value}
    (coerced : values.mapM (coerce field kind) = .ok literals) :
    literals.mapM (coerce field kind) = .ok literals ∧
      ∀ literal ∈ literals, Checked kind literal := by
  have each := mapM_eq_ok_iff.mp coerced
  have checked : ∀ literal ∈ literals, Checked kind literal := by
    intro literal member
    obtain ⟨value, -, here⟩ := exists_of_forall₂_mem each member
    exact checked_of_coerce here
  refine ⟨mapM_eq_ok_iff.mpr ?_, checked⟩
  exact List.forall₂_same.mpr fun literal member => (checked literal member).again field

end Literal

/-! ### Lookups -/

/-- Lookups of one field joined by all are the children of the group, none of them empty. -/
theorem Predicate.allOf_compare (field : String) (operator : Operator) (literals : List Value) :
    allOf (literals.map (compare field operator))
      = group .all (literals.map (compare field operator)) := by
  refine congrArg (group .all) (List.filter_eq_self.mpr fun child member => ?_)
  obtain ⟨literal, -, rfl⟩ := List.mem_map.mp member
  rfl

namespace Lookup

variable {catalog : Catalog} {target : Target} {text key : String} {operator : Operator}
  {value : Value} {predicate : Predicate}

/-- **A lookup is resolved to exactly the forms of `ResolvesTo`** on the target that it is about. -/
theorem resolve_eq_ok_iff {lookup : Lookup} :
    lookup.resolve catalog = .ok predicate ↔
      ∃ target, Target.find catalog lookup.field lookup.key = .ok target ∧
        ResolvesTo target lookup.operator lookup.value predicate := by
  refine ⟨resolvesTo_of_resolve, ?_⟩
  rintro ⟨target, found, form⟩
  obtain ⟨field, operator, value⟩ := lookup
  refine bind_eq_ok_iff.mpr ⟨target, found, ?_⟩
  cases form with
  | presence value => rfl
  | everyElement several given coerced =>
    simp only [reduceCtorEq, if_false, several, if_true, resolveMembership]
    exact bind_eq_ok_iff.mpr ⟨_, coerceAll_eq_ok_iff.mpr ⟨given, coerced⟩, rfl⟩
  | element several membership scalar coerced =>
    have notPresent : operator ≠ .present := by rintro rfl; simp at membership
    have allowed : ¬ (operator ≠ .contains ∧ operator ≠ .oneOf) := by
      rintro ⟨notContains, notOneOf⟩
      exact membership.elim notContains notOneOf
    simp only [notPresent, if_false, several, if_true, resolveMembership, allowed]
    cases value with
    | list values => cases scalar
    | _ => exact bind_eq_ok_iff.mpr ⟨_, coerced, rfl⟩
  | @alternatives values literals given coerced =>
    have checked : ∀ key, coerceAll target.path.text key target.kind values = .ok literals :=
      fun key => coerceAll_eq_ok_iff.mpr ⟨given, coerced⟩
    cases several : target.isMultiValued with
    | true =>
      simp only [reduceCtorEq, if_false, if_true, resolveMembership]
      exact bind_eq_ok_iff.mpr ⟨literals, checked _, rfl⟩
    | false =>
      simp only [reduceCtorEq, if_false, resolveScalar]
      exact bind_eq_ok_iff.mpr ⟨literals, checked _, rfl⟩
  | alternative single scalar coerced =>
    simp only [reduceCtorEq, if_false, single]
    cases value with
    | list values => cases scalar
    | _ => exact bind_eq_ok_iff.mpr ⟨_, coerced, rfl⟩
  | scalar single notPresent notOneOf textual scalar coerced =>
    have allowed : ¬ (operator.isContainment && !target.kind.isTextual) = true := by
      simpa using textual
    simp only [notPresent, if_false, single]
    show resolveScalar target _ operator value = _
    unfold resolveScalar
    split
    · exact absurd rfl notOneOf
    · exact absurd rfl notOneOf
    · cases scalar
    · exact (if_neg allowed).trans (bind_eq_ok_iff.mpr ⟨_, coerced, rfl⟩)

/-- A lookup under the path of a target is resolved on that target. -/
theorem resolve_compare (found : Target.find catalog text key = .ok target)
    (form : ResolvesTo target operator value predicate) :
    (Predicate.compare target.path.text operator value).resolve catalog = .ok predicate :=
  resolve_eq_ok_iff.mpr ⟨target, Target.find_text found _, form⟩

/-- **What a lookup is resolved to is in resolved form.** -/
theorem resolve_of_resolvesTo (found : Target.find catalog text key = .ok target)
    (form : ResolvesTo target operator value predicate) :
    predicate.resolve catalog = .ok predicate := by
  cases form with
  | presence value =>
    have stored := resolve_compare found (.presence true)
    cases value with
    | true => exact stored
    | false => exact Predicate.resolve_group_eq_ok_iff.mpr ⟨_, .cons stored .nil, rfl⟩
  | everyElement several given coerced =>
    obtain ⟨-, checked⟩ := Literal.mapM_coerce_again coerced
    rw [Predicate.allOf_compare]
    refine Predicate.resolve_group_eq_ok_iff.mpr ⟨_, List.forall₂_same.mpr ?_, rfl⟩
    intro child member
    obtain ⟨literal, here, rfl⟩ := List.mem_map.mp member
    obtain ⟨again, -, scalar⟩ := checked literal here
    exact resolve_compare found (.element several (.inl rfl) scalar (again _))
  | element several _ _ coerced =>
    obtain ⟨again, -, scalar⟩ := Literal.checked_of_coerce coerced
    exact resolve_compare found (.element several (.inl rfl) scalar (again _))
  | alternatives given coerced =>
    obtain ⟨again, -⟩ := Literal.mapM_coerce_again coerced
    refine resolve_compare found (.alternatives ?_ again)
    rintro rfl
    exact given (List.forall₂_nil_right_iff.mp (mapM_eq_ok_iff.mp coerced))
  | alternative single _ coerced =>
    obtain ⟨again, -, scalar⟩ := Literal.checked_of_coerce coerced
    exact resolve_compare found
      (.scalar single (by decide) (by decide) (by simp [Operator.isContainment]) scalar (again _))
  | scalar single notPresent notOneOf textual _ coerced =>
    obtain ⟨again, -, scalar⟩ := Literal.checked_of_coerce coerced
    exact resolve_compare found (.scalar single notPresent notOneOf textual scalar (again _))

/-- **A lookup and its inverse are resolved alike**, with one literal. -/
theorem ResolvesTo.invert {inverse : Operator} (form : ResolvesTo target operator value predicate)
    (inverts : operator.inverse? = some inverse) :
    ∃ literal, predicate = .compare target.path.text operator literal ∧
      ResolvesTo target inverse value (.compare target.path.text inverse literal) := by
  cases form with
  | presence | everyElement | alternatives | alternative => cases inverts
  | element several membership => rcases membership with rfl | rfl <;> cases inverts
  | @scalar _ _ literal single notPresent notOneOf textual scalar coerced =>
    refine ⟨literal, rfl, .scalar single ?_ ?_ ?_ scalar coerced⟩
    all_goals cases operator <;> cases inverts <;> simp [Operator.isContainment]

/-! ### Lookups that compile -/

/-- What a test on a target compiles to: one literal is compared, or one after another. -/
def restrictionOf (target : Target) (value : Value) : Operator.Test → Except QueryError Restriction
  | .compare comparison => do
    return .compare target.fieldUri comparison (← Literal.make target.path.text value)
  | .contains mode casing => do
    return .contains target.fieldUri mode casing (← Literal.make target.path.text value)
  | .present => return .present target.fieldUri
  | .oneOf => do
    let alternatives ← (value.list?.getD [value]).mapM fun literal => do
      return .compare target.fieldUri .equal (← Literal.make target.path.text literal)
    return Restriction.orOf alternatives

theorem compile_eq {lookup : Lookup}
    (found : Target.find catalog lookup.field lookup.key = .ok target) :
    lookup.compile catalog = restrictionOf target lookup.value (target.test lookup.operator) := by
  unfold compile
  rw [found]
  show (match target.test lookup.operator with
    | .compare comparison => _
    | .contains mode casing => _
    | .present => _
    | .oneOf => _) = _
  cases target.test lookup.operator <;> rfl

/-- A lookup compiles when its literals have texts on the wire: the elements of a list, or a single
value. Only `oneOf` takes a list. -/
theorem exists_compile {lookup : Lookup}
    (found : Target.find catalog lookup.field lookup.key = .ok target)
    (wired : ∀ literal ∈ lookup.value.list?.getD [lookup.value],
      ∃ text, Literal.wireText? literal = some text)
    (scalar : lookup.operator ≠ .oneOf → lookup.value.isList = false) :
    ∃ restriction, lookup.compile catalog = .ok restriction := by
  rw [compile_eq found]
  have single : lookup.operator ≠ .oneOf →
      ∃ literal, Literal.make target.path.text lookup.value = .ok literal := by
    intro notOneOf
    refine Literal.exists_make (wired lookup.value ?_) _
    have single := scalar notOneOf
    cases value : lookup.value with
    | list values => rw [value] at single; cases single
    | _ => exact List.mem_singleton.mpr rfl
  cases operator : target.test lookup.operator with
  | present => exact ⟨_, rfl⟩
  | oneOf =>
    obtain ⟨alternatives, made⟩ := exists_mapM_eq_ok fun literal member => by
      obtain ⟨made, same⟩ := Literal.exists_make (wired literal member) target.path.text
      exact ⟨Restriction.compare target.fieldUri .equal made, bind_eq_ok_iff.mpr ⟨made, same, rfl⟩⟩
    exact ⟨_, bind_eq_ok_iff.mpr ⟨alternatives, made, rfl⟩⟩
  | _ =>
    obtain ⟨literal, made⟩ := single (by
      intro oneOf
      simp [Target.test, oneOf, Operator.test] at operator)
    exact ⟨_, bind_eq_ok_iff.mpr ⟨literal, made, rfl⟩⟩

/-- **The lookups of a resolved form compile.** -/
theorem exists_compile_of_resolvesTo (found : Target.find catalog text key = .ok target)
    (form : ResolvesTo target operator value predicate) {lookup : Lookup}
    (member : lookup ∈ predicate.lookups) :
    ∃ restriction, lookup.compile catalog = .ok restriction := by
  have single : ∀ (operator : Operator) {literal : Value}, Literal.Checked target.kind literal →
      ∃ restriction, compile catalog ⟨target.path.text, operator, literal⟩ = .ok restriction := by
    intro operator literal checked
    refine exists_compile (Target.find_text found _) ?_ fun _ => checked.scalar
    have scalar := checked.scalar
    cases literal with
    | list values => cases scalar
    | _ => exact List.forall_mem_singleton.mpr checked.wire
  cases form with
  | presence value =>
    have stored : ∃ restriction,
        compile catalog ⟨target.path.text, .present, .bool true⟩ = .ok restriction :=
      exists_compile (Target.find_text found _) (List.forall_mem_singleton.mpr ⟨_, rfl⟩)
        fun _ => rfl
    cases value <;> (cases List.mem_singleton.mp member; exact stored)
  | everyElement several given coerced =>
    obtain ⟨-, checked⟩ := Literal.mapM_coerce_again coerced
    rw [Predicate.allOf_compare, Predicate.lookups_group] at member
    obtain ⟨child, here, inside⟩ := List.mem_flatMap.mp member
    obtain ⟨literal, one, rfl⟩ := List.mem_map.mp here
    cases List.mem_singleton.mp inside
    exact single .contains (checked literal one)
  | alternatives given coerced =>
    obtain ⟨-, checked⟩ := Literal.mapM_coerce_again coerced
    cases List.mem_singleton.mp member
    exact exists_compile (Target.find_text found _) (fun literal one => (checked literal one).wire)
      (absurd rfl)
  | element _ _ _ coerced | alternative _ _ coerced | scalar _ _ _ _ _ coerced =>
    cases List.mem_singleton.mp member
    exact single _ (Literal.checked_of_coerce coerced)

end Lookup

/-! ### Predicates -/

namespace Predicate

variable {catalog : Catalog} {predicate resolved : Predicate}

/-- **What was resolved is in resolved form.** -/
theorem resolve_of_resolve (run : predicate.resolve catalog = .ok resolved) :
    resolved.resolve catalog = .ok resolved := by
  induction predicate using tree_induction generalizing resolved with
  | leaf lookup =>
    obtain ⟨target, found, form⟩ := Lookup.resolvesTo_of_resolve run
    exact Lookup.resolve_of_resolvesTo found form
  | group connective children ih =>
    obtain ⟨parts, each, rfl⟩ := resolve_group_eq_ok_iff.mp run
    refine resolve_group_eq_ok_iff.mpr ⟨parts, List.forall₂_same.mpr fun part member => ?_, rfl⟩
    obtain ⟨child, here, run⟩ := exists_of_forall₂_mem each member
    exact ih child here run

/-- The lookups of a predicate in resolved form compile. -/
theorem exists_compile_of_resolve (run : predicate.resolve catalog = .ok resolved)
    {lookup : Lookup} (member : lookup ∈ resolved.lookups) :
    ∃ restriction, lookup.compile catalog = .ok restriction := by
  induction predicate using tree_induction generalizing resolved with
  | leaf lookup =>
    obtain ⟨target, found, form⟩ := Lookup.resolvesTo_of_resolve run
    exact Lookup.exists_compile_of_resolvesTo found form member
  | group connective children ih =>
    obtain ⟨parts, each, rfl⟩ := resolve_group_eq_ok_iff.mp run
    rw [lookups_group] at member
    obtain ⟨part, here, inside⟩ := List.mem_flatMap.mp member
    obtain ⟨child, found, run⟩ := exists_of_forall₂_mem each here
    exact ih child found run inside

/-- A predicate compiles when each of its lookups does. -/
theorem exists_compileResolved
    (each : ∀ lookup ∈ predicate.lookups, ∃ restriction, lookup.compile catalog = .ok restriction) :
    ∃ result, predicate.compileResolved catalog = .ok result := by
  induction predicate using tree_induction with
  | leaf lookup =>
    obtain ⟨restriction, compiled⟩ := each lookup (List.mem_singleton.mpr rfl)
    exact ⟨some restriction, bind_eq_ok_iff.mpr ⟨restriction, compiled, rfl⟩⟩
  | group connective children ih =>
    rw [lookups_group] at each
    have sorted := perm_stableSort (fun a b : Compiled => a.sortKey < b.sortKey)
      (compileAll catalog children)
    have compiles : ∀ compiled ∈ stableSort (fun a b : Compiled => a.sortKey < b.sortKey)
        (compileAll catalog children), ∃ result, compiled.result = .ok result := by
      intro compiled member
      have given := sorted.mem_iff.mp member
      rw [compileAll_eq_map] at given
      obtain ⟨child, here, rfl⟩ := List.mem_map.mp given
      exact ih child here fun lookup inside =>
        each lookup (List.mem_flatMap.mpr ⟨child, here, inside⟩)
    obtain ⟨results, checked⟩ := exists_mapM_eq_ok compiles
    exact ⟨_, bind_eq_ok_iff.mpr ⟨_, bind_eq_ok_iff.mpr ⟨results, checked, rfl⟩, rfl⟩⟩

/-- **A predicate compiles exactly when it can be resolved.** -/
theorem exists_compile_iff :
    (∃ result, predicate.compile catalog = .ok result) ↔
      ∃ resolved, predicate.resolve catalog = .ok resolved := by
  constructor
  · rintro ⟨result, compiled⟩
    obtain ⟨resolved, run, -⟩ := bind_eq_ok_iff.mp compiled
    exact ⟨resolved, run⟩
  · rintro ⟨resolved, run⟩
    obtain ⟨result, compiled⟩ := exists_compileResolved fun lookup => exists_compile_of_resolve run
    exact ⟨result, bind_eq_ok_iff.mpr ⟨resolved, run, compiled⟩⟩

/-! ### Negations and combinations -/

/-- **The forms of a negation.** -/
inductive Negation : Predicate → Predicate → Prop
  /-- A lookup whose operator has an inverse. -/
  | inverted {lookup : Lookup} {inverse : Operator}
      (inverts : lookup.operator.inverse? = some inverse) :
      Negation (.leaf lookup) (.leaf { lookup with operator := inverse })
  /-- A lookup whose operator has none. -/
  | wrappedLeaf {lookup : Lookup} (noInverse : lookup.operator.inverse? = none) :
      Negation (.leaf lookup) (.group .notAll [.leaf lookup])
  /-- A group that does not negate. -/
  | wrappedGroup (connective : Connective) (children : List Predicate) :
      Negation (.group connective children) (.group .notAll [.group connective children])
  /-- A group that negates. -/
  | unwrapped (children : List Predicate) :
      Negation (.group .notAll children) (.group .all children)
  /-- A group without children. -/
  | empty (connective : Connective) : Negation (.group connective []) (.group connective [])

theorem negation_negate (predicate : Predicate) : Negation predicate predicate.negate := by
  unfold negate
  split
  · split
    · rename_i inverts
      exact .inverted inverts
    · rename_i noInverse
      exact .wrappedLeaf noInverse
  · exact .unwrapped _
  · exact .empty _
  · exact .wrappedGroup _ _

/-- **Where a predicate is resolved, so is its negation**, and the negation of a resolved form is in
resolved form itself. -/
theorem resolve_negate (run : predicate.resolve catalog = .ok resolved) :
    ∃ negated, predicate.negate.resolve catalog = .ok negated ∧
      (resolved = predicate → negated = predicate.negate) := by
  have form := negation_negate predicate
  generalize predicate.negate = opposite at form ⊢
  cases form with
  | @inverted lookup inverse inverts =>
    obtain ⟨target, found, form⟩ := Lookup.resolvesTo_of_resolve run
    obtain ⟨literal, rfl, inverted⟩ := form.invert inverts
    refine ⟨_, Lookup.resolve_eq_ok_iff.mpr ⟨target, Target.find_key found _, inverted⟩, ?_⟩
    obtain ⟨field, operator, value⟩ := lookup
    intro same
    cases same
    rfl
  | wrappedLeaf | wrappedGroup =>
    refine ⟨.group .notAll [resolved], resolve_group_eq_ok_iff.mpr ⟨_, .cons run .nil, rfl⟩, ?_⟩
    rintro rfl
    rfl
  | unwrapped children =>
    obtain ⟨parts, each, rfl⟩ := resolve_group_eq_ok_iff.mp run
    refine ⟨.group .all parts, resolve_group_eq_ok_iff.mpr ⟨parts, each, rfl⟩, ?_⟩
    intro same
    cases same
    rfl
  | empty connective => exact ⟨_, resolve_group_eq_ok_iff.mpr ⟨[], .nil, rfl⟩, fun _ => rfl⟩

/-- The negation of a resolved form is in resolved form. -/
theorem resolve_negate_of_resolved (fixed : predicate.resolve catalog = .ok predicate) :
    predicate.negate.resolve catalog = .ok predicate.negate := by
  obtain ⟨negated, run, same⟩ := resolve_negate fixed
  rw [run, same rfl]

/-- Resolved forms put together are in resolved form. -/
theorem resolve_groupOf_of_resolved {connective : Connective} {children : List Predicate}
    (fixed : ∀ child ∈ children, child.resolve catalog = .ok child) :
    (groupOf connective children).resolve catalog = .ok (groupOf connective children) :=
  resolve_group_eq_ok_iff.mpr ⟨_, List.forall₂_same.mpr fun child member =>
    fixed child (List.mem_of_mem_filter member), rfl⟩

/-- Where all of some predicates are resolved, so is what they are put together to. -/
theorem exists_resolve_groupOf {connective : Connective} {children : List Predicate}
    (each : ∀ child ∈ children, ∃ resolved, child.resolve catalog = .ok resolved) :
    ∃ resolved, (groupOf connective children).resolve catalog = .ok resolved := by
  obtain ⟨parts, checked⟩ := exists_mapM_eq_ok fun child member =>
    each child (List.mem_of_mem_filter member)
  exact ⟨_, resolve_group_eq_ok_iff.mpr ⟨parts, mapM_eq_ok_iff.mp checked, rfl⟩⟩

end Predicate

end Sift
