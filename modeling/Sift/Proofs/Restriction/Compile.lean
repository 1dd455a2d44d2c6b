/-
**From the resolved tree to the restriction.**

The tree of resolved lookups has a truth of its own, which takes each lookup at its word
(`Lookup.passes`): no literal is put in another form. Compiling sorts the children of a group, drops
those that say nothing and joins the rest, and keeps that truth.

* `Restriction.satisfiedBy_connect` — what joins the parts of a group has the truth of the group.
* `Lookup.admits_compile` — a compiled lookup admits what passes the lookup.
* `Predicate.of_compileResolved_group` — a group compiles when all its children do.
* `Predicate.satisfiedBy_compileResolved` — a restriction has the truth of the resolved tree.
-/

import Sift.Proofs.Checks
import Sift.Proofs.Predicate.Truth
import Sift.Restriction.Compile
import Sift.Restriction.Matching

namespace Sift

/-! ### Restrictions and their truth -/

namespace Restriction

/-- **What joins the parts of a group has the truth of the group.** -/
theorem satisfiedBy_connect (item : Item) (connective : Connective) (parts : List Restriction) :
    (connect connective parts).map (admits item) = connective.truth (parts.map (admits item)) := by
  match parts with
  | [] => cases connective <;> rfl
  | [part] => cases connective <;> simp [connect, Connective.truth, admits]
  | first :: second :: rest =>
    have everyOne : admitsAll item (first :: second :: rest)
        = ((first :: second :: rest).map (admits item)).all id := by
      rw [admitsAll_eq_all, List.all_map]
      rfl
    have someOne : admitsAny item (first :: second :: rest)
        = ((first :: second :: rest).map (admits item)).any id := by
      rw [admitsAny_eq_any, List.any_map]
      rfl
    cases connective with
    | all => exact congrArg some everyOne
    | any => exact congrArg some someOne
    | notAll => exact congrArg (fun all => some !all) everyOne

/-- One of several alternatives holds. -/
theorem admits_orOf (item : Item) (alternatives : List Restriction) :
    admits item (orOf alternatives) = alternatives.any (admits item) := by
  match alternatives with
  | [] => rfl
  | [alternative] => simp [orOf]
  | first :: second :: rest => rw [orOf, admits, admitsAny_eq_any]; simp

end Restriction

/-! ### Resolved lookups -/

/-- What compiling makes of an operator on a target: on a list, `contains` is equality. -/
def Target.test (target : Target) (operator : Operator) : Operator.Test :=
  if target.isMultiValued && operator = .contains then .compare .equal else operator.test

/-- Whether what is stored under a path passes a test against a value, taken as it is. -/
def Operator.Test.holds (value : Value) (stored : Option Value) : Operator.Test → Bool
  | .compare comparison => comparison.holdsAt value stored
  | .contains mode casing =>
    Restriction.containsAt mode casing ((Literal.wireText? value).getD "") stored
  | .present => Restriction.isStored stored
  | .oneOf => (value.list?.getD [value]).any fun literal => Comparison.equal.holdsAt literal stored

/-- The literal of a value has that value, and its text. -/
theorem Literal.of_make {field : String} {value : Value} {literal : Literal}
    (made : Literal.make field value = .ok literal) :
    literal.value = value ∧ Literal.wireText? value = some literal.text := by
  unfold Literal.make at made
  split at made
  · rename_i text agree
    cases made
    exact ⟨rfl, agree⟩
  · cases made

namespace Lookup

/-- Whether an item passes a resolved lookup, its literal taken as it is. -/
def passes (catalog : Catalog) (item : Item) (lookup : Lookup) : Bool :=
  match Target.find catalog lookup.field lookup.key with
  | .ok target => (target.test lookup.operator).holds lookup.value (item.valueAt target.path)
  | .error _ => false

/-- **A compiled lookup admits what passes the lookup.** -/
theorem admits_compile {catalog : Catalog} {lookup : Lookup} {restriction : Restriction}
    (compiled : lookup.compile catalog = .ok restriction) (item : Item) :
    restriction.satisfiedBy item = lookup.passes catalog item := by
  obtain ⟨target, found, run⟩ := bind_eq_ok_iff.mp compiled
  show Restriction.admits item restriction = _
  rw [passes, found]
  change (match target.test lookup.operator with
    | .compare comparison => _
    | .contains mode casing => _
    | .present => _
    | .oneOf => _) = _ at run
  show _ = (target.test lookup.operator).holds lookup.value (item.valueAt target.path)
  cases test : target.test lookup.operator with
  | compare comparison =>
    rw [test] at run
    obtain ⟨literal, made, same⟩ := bind_eq_ok_iff.mp run
    cases same
    rw [Restriction.admits, (Literal.of_make made).1]
    rfl
  | contains mode casing =>
    rw [test] at run
    obtain ⟨literal, made, same⟩ := bind_eq_ok_iff.mp run
    cases same
    rw [Restriction.admits, Operator.Test.holds, (Literal.of_make made).2]
    rfl
  | present =>
    rw [test] at run
    cases run
    rfl
  | oneOf =>
    rw [test] at run
    obtain ⟨alternatives, made, same⟩ := bind_eq_ok_iff.mp run
    cases same
    rw [Restriction.admits_orOf, Operator.Test.holds]
    refine (any_eq_any_of_forall₂ (mapM_eq_ok_iff.mp made) fun value _ alternative here => ?_).symm
    obtain ⟨literal, made, same⟩ := bind_eq_ok_iff.mp here
    cases same
    rw [Restriction.admits, (Literal.of_make made).1]
    rfl

end Lookup

/-! ### From the resolved tree to the restriction -/

namespace Predicate

/-- The restriction of a compiled child, if it has one. -/
def Compiled.part? (child : Compiled) : Option Restriction :=
  match child.result with
  | .ok part => part
  | .error _ => none

/-- **Siblings are gathered when all of them compile**: their restrictions, in some order. -/
theorem of_siblings {compiled : List Compiled} {parts : List Restriction}
    (gathered : siblings compiled = .ok parts) :
    (∀ child ∈ compiled, ∃ part, child.result = .ok part) ∧
      parts.Perm (compiled.filterMap Compiled.part?) := by
  obtain ⟨results, checked, same⟩ := bind_eq_ok_iff.mp gathered
  cases same
  have sorted := perm_stableSort (fun a b : Compiled => a.sortKey < b.sortKey) compiled
  constructor
  · intro child member
    obtain ⟨part, -, compiled⟩ := exists_of_mapM_eq_ok checked (sorted.mem_iff.mpr member)
    exact ⟨part, compiled⟩
  · have inOrder := filterMap_eq_filterMap_of_forall₂ (f := Compiled.part?) (g := id)
      (mapM_eq_ok_iff.mp checked) fun child _ part same => by rw [Compiled.part?, same]; rfl
    rw [← inOrder]
    exact sorted.filterMap _

/-- The restriction of a resolved predicate, if it has one. -/
def restriction? (catalog : Catalog) (predicate : Predicate) : Option Restriction :=
  Compiled.part? ⟨predicate.sortKey, predicate.compileResolved catalog⟩

theorem restriction?_of_compileResolved {catalog : Catalog} {predicate : Predicate}
    {result : Option Restriction} (compiled : predicate.compileResolved catalog = .ok result) :
    predicate.restriction? catalog = result := by
  rw [restriction?, Compiled.part?, compiled]

theorem compileAll_eq_map (catalog : Catalog) (children : List Predicate) :
    compileAll catalog children
      = children.map fun child => ⟨child.sortKey, child.compileResolved catalog⟩ := by
  induction children with
  | nil => rfl
  | cons child rest ih => rw [compileAll, ih, List.map_cons]

/-- **A group compiles when all its children do**, and joins their restrictions, in some order. -/
theorem of_compileResolved_group {catalog : Catalog} {connective : Connective}
    {children : List Predicate} {result : Option Restriction}
    (compiled : (group connective children).compileResolved catalog = .ok result) :
    (∀ child ∈ children, ∃ part, child.compileResolved catalog = .ok part) ∧
      ∃ parts, parts.Perm (children.filterMap (restriction? catalog)) ∧
        result = Restriction.connect connective parts := by
  obtain ⟨parts, gathered, same⟩ := bind_eq_ok_iff.mp compiled
  cases same
  rw [compileAll_eq_map] at gathered
  obtain ⟨each, reordered⟩ := of_siblings gathered
  refine ⟨fun child member => each _ (List.mem_map_of_mem member), parts, ?_, rfl⟩
  rw [List.filterMap_map] at reordered
  exact reordered

/-- **A restriction has the truth of the resolved tree that it was compiled from.** -/
theorem satisfiedBy_compileResolved {catalog : Catalog} {predicate : Predicate}
    {result : Option Restriction} (compiled : predicate.compileResolved catalog = .ok result)
    (item : Item) :
    result.map (fun restriction => restriction.satisfiedBy item)
      = predicate.truth (Lookup.passes catalog item) := by
  induction predicate using tree_induction generalizing result with
  | leaf lookup =>
    obtain ⟨restriction, made, same⟩ := bind_eq_ok_iff.mp compiled
    cases same
    exact congrArg some (Lookup.admits_compile made item)
  | group connective children ih =>
    obtain ⟨each, parts, reordered, rfl⟩ := of_compileResolved_group compiled
    rw [truth_group]
    refine (Restriction.satisfiedBy_connect item connective parts).trans ?_
    -- The parts stand in the order of the sort keys, which no connective tells from another.
    rw [connective.truth_perm (reordered.map (Restriction.admits item)), List.map_filterMap]
    congr 1
    refine List.filterMap_congr fun child member => ?_
    obtain ⟨part, compiled⟩ := each child member
    rw [restriction?_of_compileResolved compiled]
    exact ih child member compiled

end Predicate

end Sift
