/-
**Where a negation holds of exactly what a predicate does not hold of.**

The negation of a group always does, and so does that of a lookup, but for comparisons by order:
those are inverted, and a comparison and its inverse both pass over what is not comparable. An item
without a value is missed by both, and a list with elements on either side is hit by both. So an
item decides such a lookup (`Lookup.Decided`) when something stored is comparable with the literal
and all that is comparable lies on one side.

* `Lookup.holds_invert_iff` — the inverse of a lookup holds where the lookup does not, exactly of
  the items that decide it.
* `Predicate.truth_negate_iff` — the same of predicates.
* `Predicate.negate_complements_iff` — the same of restrictions, and of the two query sets that
  filter by a predicate and exclude it.
-/

import Sift.Proofs.Predicate.Identity
import Sift.Proofs.Predicate.Resolved
import Sift.QuerySet.Basic
import Sift.Store.Memory

namespace Sift

/-! ### Comparisons and their inverses -/

/-- Whether an operator compares by order, and not for equality. -/
def Operator.isOrdering : Operator → Bool
  | .greater | .atLeast | .less | .atMost => true
  | _ => false

namespace Lookup

/-- What a comparison with a value says of each element of a target that is comparable with it. -/
def verdicts (target : Target) (item : Item) (operator : Operator) (value : Value) : List Bool :=
  match Literal.coerce target.path.text target.kind value with
  | .ok literal =>
    (item.elementsAt target.path).filterMap fun stored =>
      (stored.compare literal).map operator.orders.contains
  | .error _ => []

/-- **Whether an item decides a lookup.** For a comparison by order, one of the comparable elements
passes exactly when none of them fails. Every other lookup is decided by every item. -/
def Decided (catalog : Catalog) (item : Item) (lookup : Lookup) : Prop :=
  lookup.operator.isOrdering = true → ∃ target, lookup.target? catalog = some target ∧
    (true ∈ verdicts target item lookup.operator lookup.value ↔
      false ∉ verdicts target item lookup.operator lookup.value)

variable {catalog : Catalog} {target : Target} {item : Item} {operator inverse : Operator}
  {value : Value}

theorem decided_iff {lookup : Lookup} (known : lookup.target? catalog = some target) :
    lookup.Decided catalog item ↔ (lookup.operator.isOrdering = true →
      (true ∈ verdicts target item lookup.operator lookup.value ↔
        false ∉ verdicts target item lookup.operator lookup.value)) := by
  unfold Decided
  rw [known]
  simp

/-- A comparison by order passes some element when one of its verdicts says so. -/
theorem somePasses_eq_any_verdicts (ordering : operator.isOrdering = true) :
    somePasses target item operator value = (verdicts target item operator value).any id := by
  have comparison : operator.isContainment = false := by cases operator <;> cases ordering <;> rfl
  unfold somePasses verdicts
  cases Literal.coerce target.path.text target.kind value with
  | error error => rfl
  | ok literal =>
    show (item.elementsAt target.path).any (operator.passes literal) = _
    rw [List.any_filterMap]
    congr 1
    funext stored
    simp only [Operator.passes, comparison, Bool.false_eq_true, if_false]
    cases stored.compare literal <;> rfl

/-- The inverse of a comparison by order says the opposite of each comparable element. -/
theorem verdicts_inverse (ordering : operator.isOrdering = true)
    (inverts : operator.inverse? = some inverse) :
    verdicts target item inverse value = (verdicts target item operator value).map not := by
  have opposite : ∀ order, inverse.orders.contains order = !operator.orders.contains order := by
    intro order
    cases operator <;> cases ordering <;> cases inverts <;> cases order <;> rfl
  unfold verdicts
  cases Literal.coerce target.path.text target.kind value with
  | error error => rfl
  | ok literal =>
    show List.filterMap _ _ = List.map not (List.filterMap _ _)
    rw [List.map_filterMap]
    congr 1
    funext stored
    rw [Option.map_map]
    exact congrArg (fun verdict => (stored.compare literal).map verdict) (funext opposite)

/-- Opposite verdicts come out opposite when there are any and they agree. -/
theorem any_map_not_iff (verdicts : List Bool) :
    (verdicts.map not).any id = (!verdicts.any id) ↔ (true ∈ verdicts ↔ false ∉ verdicts) := by
  have opposite : (verdicts.map not).any id = true ↔ false ∈ verdicts := by simp
  have straight : verdicts.any id = true ↔ true ∈ verdicts := by simp
  rw [Bool.eq_iff_iff, Bool.not_eq_true', ← Bool.not_eq_true, opposite, straight]
  exact ⟨fun same => not_iff_comm.mp same.symm |>.symm, fun same => by rw [same, not_not]⟩

/-- **The inverse of a lookup holds where the lookup does not, exactly of the items that decide
it.** -/
theorem holds_invert_iff {lookup : Lookup} (known : lookup.target? catalog = some target)
    (inverts : lookup.operator.inverse? = some inverse) :
    holds catalog item { lookup with operator := inverse } = (!holds catalog item lookup) ↔
      lookup.Decided catalog item := by
  have inverted : Lookup.target? catalog { lookup with operator := inverse } = some target := known
  rw [holds, holds, known, inverted]
  show holdsOn target item { lookup with operator := inverse } = (!holdsOn target item lookup) ↔ _
  obtain ⟨field, operator, value⟩ := lookup
  by_cases ordering : operator.isOrdering = true
  · have backwards : inverse.isOrdering = true := by
      cases operator <;> cases ordering <;> cases inverts <;> rfl
    have means : ∀ {operator : Operator}, operator.isOrdering = true →
        holdsOn target item ⟨field, operator, value⟩
          = (verdicts target item operator value).any id := by
      intro operator ordering
      rw [← somePasses_eq_any_verdicts ordering]
      cases operator <;> cases ordering <;> rfl
    rw [means ordering, means backwards, verdicts_inverse ordering inverts, any_map_not_iff,
      decided_iff known]
    exact ⟨fun decides _ => decides, fun decided => decided ordering⟩
  · refine iff_of_true ?_ fun compares => absurd compares ordering
    cases operator <;> cases inverts <;> simp_all [holdsOn, Operator.isOrdering]

end Lookup

namespace Predicate

/-- Whether an item decides a predicate: a lookup alone may be undecided, and no group is. -/
def Decided (catalog : Catalog) (item : Item) : Predicate → Prop
  | .leaf lookup => lookup.Decided catalog item
  | .group _ _ => True

variable {catalog : Catalog} {predicate resolved : Predicate} {item : Item}

/-- **The negation of a predicate is true where the predicate is not, exactly of the items that
decide it.** -/
theorem truth_negate_iff (run : predicate.resolve catalog = .ok resolved) {truth : Bool}
    (said : predicate.truth (Lookup.holds catalog item) = some truth) :
    predicate.negate.truth (Lookup.holds catalog item) = some (!truth) ↔
      predicate.Decided catalog item := by
  have form := negation_negate predicate
  generalize predicate.negate = opposite at form ⊢
  have wrapped : (group .notAll [predicate]).truth (Lookup.holds catalog item) = some (!truth) := by
    rw [truth_group]
    simp [said, Connective.truth]
  cases form with
  | inverted inverts =>
    obtain ⟨target, found, -⟩ := Lookup.resolvesTo_of_resolve run
    cases said
    rw [truth, Option.some_inj]
    exact Lookup.holds_invert_iff (Lookup.target?_of_find found) inverts
  | @wrappedLeaf lookup noInverse =>
    refine iff_of_true wrapped fun ordering => ?_
    cases operator : lookup.operator <;> simp_all [Operator.isOrdering, Operator.inverse?]
  | wrappedGroup => exact iff_of_true wrapped trivial
  | unwrapped children =>
    refine iff_of_true ?_ trivial
    rw [truth_group] at said ⊢
    cases truths : children.filterMap (Predicate.truth (Lookup.holds catalog item)) with
    | nil => rw [truths] at said; cases said
    | cons first rest =>
      rw [truths] at said
      cases said
      simp [Connective.truth]
  | empty => cases said

/-- What a resolved predicate says of the values that an item stores is what the predicate says. -/
theorem truth_holds_resolve (run : predicate.resolve catalog = .ok resolved) (item : Item) :
    resolved.truth (Lookup.holds catalog item) = predicate.truth (Lookup.holds catalog item) := by
  rw [← truth_resolve (resolve_of_resolve run), truth_resolve run]

/-- A predicate with a lookup says something of every item. -/
theorem exists_truth (speaks : predicate.lookups ≠ []) (holds : Lookup → Bool) :
    ∃ truth, predicate.truth holds = some truth :=
  Option.ne_none_iff_exists'.mp fun silent => speaks ((truth_eq_none_iff holds).mp silent)

/-- Where a predicate says something of an item, its negation does, and the opposite exactly if the
item decides the predicate. -/
theorem exists_truth_negate (run : predicate.resolve catalog = .ok resolved) {truth : Bool}
    (said : predicate.truth (Lookup.holds catalog item) = some truth) :
    ∃ opposite, predicate.negate.truth (Lookup.holds catalog item) = some opposite ∧
      (opposite = (!truth) ↔ predicate.Decided catalog item) := by
  have speaks : predicate.negate.truth (Lookup.holds catalog item) ≠ none := by
    rw [ne_eq, truth_eq_none_iff, lookups_negate_eq_nil_iff, ← truth_eq_none_iff, said]
    exact Option.some_ne_none truth
  obtain ⟨opposite, known⟩ := Option.ne_none_iff_exists'.mp speaks
  refine ⟨opposite, known, ?_⟩
  rw [← truth_negate_iff run said, known, Option.some_inj]

/-- Resolving a predicate does not change which items decide it. -/
theorem decided_resolve_iff (run : predicate.resolve catalog = .ok resolved) :
    resolved.Decided catalog item ↔ predicate.Decided catalog item := by
  cases predicate with
  | group connective children =>
    obtain ⟨parts, -, rfl⟩ := resolve_group_eq_ok_iff.mp run
    exact Iff.rfl
  | leaf lookup =>
    obtain ⟨target, found, form⟩ := Lookup.resolvesTo_of_resolve run
    have known := Lookup.target?_of_find found
    obtain ⟨field, operator, value⟩ := lookup
    -- Only a comparison by order may be undecided, and it is resolved to one with the same verdicts.
    cases form with
    | presence value =>
      refine iff_of_true ?_ (fun ordering => nomatch ordering)
      cases value with
      | true => exact fun ordering => nomatch ordering
      | false => trivial
    | everyElement => exact iff_of_true trivial (fun ordering => nomatch ordering)
    | alternatives | alternative =>
      exact iff_of_true (fun ordering => nomatch ordering) (fun ordering => nomatch ordering)
    | element several membership =>
      refine iff_of_true (fun ordering => nomatch ordering) (fun ordering => ?_)
      rcases membership with rfl | rfl <;> cases ordering
    | @scalar _ _ literal single notPresent notOneOf textual scalar coerced =>
      have again := (Literal.checked_of_coerce coerced).again target.path.text
      have same : Lookup.verdicts target item operator literal
          = Lookup.verdicts target item operator value := by
        rw [Lookup.verdicts, Lookup.verdicts, again, coerced]
      have found : Lookup.target? catalog ⟨target.path.text, operator, literal⟩ = some target :=
        Lookup.target?_of_find (Target.find_text found (Lookup.key ⟨field, operator, value⟩))
      show Lookup.Decided catalog item _ ↔ Lookup.Decided catalog item _
      rw [Lookup.decided_iff found, Lookup.decided_iff known, same]

/-! ### Restrictions -/

/-- **An item belongs to the result of a predicate when the predicate is true of it**, or says
nothing. -/
theorem admits_of_compile {result : Option Restriction}
    (compiled : predicate.compile catalog = .ok result) (item : Item) :
    Memory.admits result (.ok item)
      = (predicate.truth (Lookup.holds catalog item)).getD true := by
  obtain ⟨resolved, run, rest⟩ := bind_eq_ok_iff.mp compiled
  rw [← truth_resolve run, ← satisfiedBy_compileResolved rest]
  cases result <;> rfl

/-- Leaving out what is empty does not change the truth of a group. -/
theorem truth_groupOf (holds : Lookup → Bool) (connective : Connective)
    (children : List Predicate) :
    (groupOf connective children).truth holds
      = connective.truth (children.filterMap (truth holds)) := by
  rw [groupOf, truth_group, List.filterMap_filter]
  refine congrArg connective.truth (List.filterMap_congr fun child _ => ?_)
  cases empty : child.isEmpty with
  | true => exact ((truth_eq_none_iff holds).mpr (lookups_of_isEmpty empty)).symm
  | false => rfl

/-- Both of two predicates are true, as far as they say anything, when each is. -/
theorem truth_both_getD (a b : Predicate) (holds : Lookup → Bool) :
    ((a.both b).truth holds).getD true
      = ((a.truth holds).getD true && (b.truth holds).getD true) := by
  rw [both, allOf, truth_groupOf]
  cases ha : a.truth holds <;> cases hb : b.truth holds <;> simp [ha, hb, Connective.truth]

/-- Both of two predicates compile when each can be resolved. -/
theorem exists_compile_both {a b : Predicate} (left : ∃ resolved, a.resolve catalog = .ok resolved)
    (right : ∃ resolved, b.resolve catalog = .ok resolved) :
    ∃ result, (a.both b).compile catalog = .ok result := by
  refine exists_compile_iff.mpr (exists_resolve_groupOf fun child member => ?_)
  rcases List.mem_pair.mp member with rfl | rfl
  · exact left
  · exact right

end Predicate

/-! ### Filtering and excluding -/

namespace QuerySet

variable {set : QuerySet} {base predicate resolved : Predicate} {whole : Option Restriction}

/-- **What both a query set and a predicate ask for**, once the predicate is resolved, is what the
narrower query set asks for. -/
theorem exists_restriction_both (known : set.predicate = some base)
    (asked : set.restriction = .ok whole) (fixed : resolved.resolve set.catalog = .ok resolved) :
    ∃ narrower, QuerySet.restriction
        { set.all with predicate := set.predicate.map (·.both resolved) } = .ok narrower ∧
      ∀ item, Memory.admits narrower (.ok item)
        = (Memory.admits whole (.ok item) &&
            (resolved.truth (Lookup.holds set.catalog item)).getD true) := by
  have compiled : base.compile set.catalog = .ok whole := by rwa [restriction, known] at asked
  obtain ⟨narrower, both⟩ := Predicate.exists_compile_both
    (Predicate.exists_compile_iff.mp ⟨whole, compiled⟩) ⟨resolved, fixed⟩
  refine ⟨narrower, ?_, fun item => ?_⟩
  · rw [known]
    exact both
  · rw [Predicate.admits_of_compile both, Predicate.truth_both_getD,
      Predicate.admits_of_compile compiled]

/-- **To filter by a predicate and to exclude it divides what a query set asks for.** Neither of the
two asks for more than the query set, and together they ask for each item of it once, exactly if the
item decides the predicate. -/
theorem exists_filter_exclude {set : QuerySet} {predicate resolved : Predicate}
    (known : set.predicate ≠ none) {whole : Option Restriction}
    (asked : set.restriction = .ok whole) (speaks : predicate.lookups ≠ [])
    (run : predicate.resolve set.catalog = .ok resolved) :
    ∃ kept left inside outside, set.filter predicate = .ok kept ∧
      set.exclude predicate = .ok left ∧ kept.restriction = .ok inside ∧
      left.restriction = .ok outside ∧
      ∀ item, (Memory.admits inside (.ok item) = true → Memory.admits whole (.ok item) = true) ∧
        (Memory.admits outside (.ok item) = true → Memory.admits whole (.ok item) = true) ∧
        (Memory.admits whole (.ok item) = true →
          (Memory.admits outside (.ok item) = (!Memory.admits inside (.ok item)) ↔
            predicate.Decided set.catalog item)) := by
  obtain ⟨base, known⟩ := Option.ne_none_iff_exists'.mp known
  have fixed := Predicate.resolve_of_resolve run
  obtain ⟨inside, kept, admitsInside⟩ := exists_restriction_both known asked fixed
  obtain ⟨outside, left, admitsOutside⟩ :=
    exists_restriction_both known asked (Predicate.resolve_negate_of_resolved fixed)
  refine ⟨_, _, inside, outside, bind_eq_ok_iff.mpr ⟨resolved, run, rfl⟩,
    bind_eq_ok_iff.mpr ⟨resolved, run, rfl⟩, kept, left, fun item => ?_⟩
  rw [admitsInside, admitsOutside]
  refine ⟨fun both => (Bool.and_eq_true_iff.mp both).1,
    fun both => (Bool.and_eq_true_iff.mp both).1, fun admitted => ?_⟩
  obtain ⟨truth, said⟩ := Predicate.exists_truth speaks (Lookup.holds set.catalog item)
  have saidResolved := (Predicate.truth_holds_resolve run item).trans said
  obtain ⟨contrary, saidNegated, decides⟩ := Predicate.exists_truth_negate fixed saidResolved
  rw [admitted, saidResolved, saidNegated, ← Predicate.decided_resolve_iff run]
  exact decides

end QuerySet

/-! ### Negations -/

namespace Predicate

variable {catalog : Catalog} {predicate resolved : Predicate} {result : Option Restriction}

/-- **Where a predicate has a restriction, its negation has one**, and an item satisfies exactly one
of the two if and only if it decides the predicate. -/
theorem exists_opposite (speaks : predicate.lookups ≠ [])
    (compiled : predicate.compile catalog = .ok result) :
    ∃ restriction opposite, result = some restriction ∧
      predicate.negate.compile catalog = .ok (some opposite) ∧
      ∀ item, opposite.satisfiedBy item = (!restriction.satisfiedBy item) ↔
        predicate.Decided catalog item := by
  obtain ⟨resolved, run, -⟩ := bind_eq_ok_iff.mp compiled
  obtain ⟨negated, runNegated, -⟩ := resolve_negate run
  obtain ⟨restriction, rfl⟩ := Option.ne_none_iff_exists'.mp fun none =>
    speaks ((eq_none_iff_of_compile compiled).mp none)
  obtain ⟨other, compiledNegated⟩ := exists_compile_iff.mpr ⟨negated, runNegated⟩
  obtain ⟨opposite, rfl⟩ := Option.ne_none_iff_exists'.mp fun none =>
    speaks (lookups_negate_eq_nil_iff.mp ((eq_none_iff_of_compile compiledNegated).mp none))
  refine ⟨restriction, opposite, rfl, compiledNegated, fun item => ?_⟩
  obtain ⟨truth, said⟩ := exists_truth speaks (Lookup.holds catalog item)
  obtain ⟨contrary, saidNegated, decides⟩ := exists_truth_negate run said
  have here : restriction.satisfiedBy item = truth := by
    rw [← Option.getD_some (a := truth) (b := true), ← said]
    exact admits_of_compile compiled item
  have there : opposite.satisfiedBy item = contrary := by
    rw [← Option.getD_some (a := contrary) (b := true), ← saidNegated]
    exact admits_of_compile compiledNegated item
  rw [here, there, decides]

/-- **A negation is the complement exactly where the predicate is decided.** The negation of a
predicate that restricts a search restricts it too, and an item satisfies one of the two
restrictions and not the other exactly if it decides the predicate. Likewise a query set that
filters by the predicate and one that excludes it divide the items among them. Only a lookup that
compares by order may be undecided: by an item without comparable elements, which both miss, or
with some on either side, which both hit. -/
theorem negate_complements_iff (speaks : predicate.lookups ≠ [])
    (compiled : predicate.compile catalog = .ok result) :
    (∃ restriction opposite, result = some restriction ∧
      predicate.negate.compile catalog = .ok (some opposite) ∧
      ∀ item, opposite.satisfiedBy item = (!restriction.satisfiedBy item) ↔
        predicate.Decided catalog item) ∧
    ∀ set : QuerySet, set.catalog = catalog → set.predicate ≠ none → ∀ whole,
      set.restriction = .ok whole →
      ∃ kept left inside outside, set.filter predicate = .ok kept ∧
        set.exclude predicate = .ok left ∧ kept.restriction = .ok inside ∧
        left.restriction = .ok outside ∧
        ∀ item, (Memory.admits inside (.ok item) = true → Memory.admits whole (.ok item) = true) ∧
          (Memory.admits outside (.ok item) = true → Memory.admits whole (.ok item) = true) ∧
          (Memory.admits whole (.ok item) = true →
            (Memory.admits outside (.ok item) = (!Memory.admits inside (.ok item)) ↔
              predicate.Decided catalog item)) := by
  obtain ⟨resolved, run, -⟩ := bind_eq_ok_iff.mp compiled
  refine ⟨exists_opposite speaks compiled, ?_⟩
  rintro set rfl known whole asked
  exact QuerySet.exists_filter_exclude known asked speaks run

/-- The field that the examples below look at. -/
def sizeTarget : Target :=
  ⟨{ name := "size", uri := "item:Size", kind := .integer }, .ofField "size"⟩

theorem target?_size (operator : Operator) :
    Lookup.target? Catalog.standard ⟨"size", operator, .int 5⟩ = some sizeTarget := by
  have path : FieldPath.split? "size" = some sizeTarget.path := by decide +kernel
  have field : Catalog.standard.get? sizeTarget.path.field = some sizeTarget.field := by
    decide +kernel
  simp only [Lookup.target?, path, field, Option.bind_eq_bind, Option.bind_some]
  rfl

theorem exists_compile_larger :
    ∃ result, (compare "size" .greater (.int 5)).compile Catalog.standard = .ok result :=
  exists_ok_of_toBool (by decide +kernel)

/-- An item with a size decides whether it is larger than five. -/
theorem negate_complements_iff_larger :
    ∃ restriction opposite,
      (compare "size" .greater (.int 5)).compile Catalog.standard = .ok (some restriction) ∧
      (compare "size" .greater (.int 5)).negate.compile Catalog.standard = .ok (some opposite) ∧
      opposite.satisfiedBy ⟨⟨"a", none⟩, [("size", .int 9)]⟩
        = (!restriction.satisfiedBy ⟨⟨"a", none⟩, [("size", .int 9)]⟩) := by
  obtain ⟨result, compiled⟩ := exists_compile_larger
  obtain ⟨⟨restriction, opposite, rfl, compiledNegated, complements⟩, -⟩ :=
    negate_complements_iff (by decide) compiled
  refine ⟨restriction, opposite, compiled, compiledNegated, (complements _).mpr ?_⟩
  exact (Lookup.decided_iff (target?_size .greater)).mpr fun _ => by decide +kernel

/-- **A negation may miss what the predicate misses, and hit what it hits**: an item without a size
is neither larger than five nor not, and one with two sizes is both. -/
theorem negate_not_complement :
    ∃ restriction opposite,
      (compare "size" .greater (.int 5)).compile Catalog.standard = .ok (some restriction) ∧
      (compare "size" .greater (.int 5)).negate.compile Catalog.standard = .ok (some opposite) ∧
      restriction.satisfiedBy ⟨⟨"a", none⟩, []⟩ = false ∧
      opposite.satisfiedBy ⟨⟨"a", none⟩, []⟩ = false ∧
      restriction.satisfiedBy ⟨⟨"b", none⟩, [("size", .list [.int 1, .int 9])]⟩ = true ∧
      opposite.satisfiedBy ⟨⟨"b", none⟩, [("size", .list [.int 1, .int 9])]⟩ = true := by
  obtain ⟨result, compiled⟩ := exists_compile_larger
  obtain ⟨restriction, opposite, rfl, compiledNegated, -⟩ := exists_opposite (by decide) compiled
  have satisfied : ∀ {operator : Operator} {restriction : Restriction},
      (compare "size" operator (.int 5)).compile Catalog.standard = .ok (some restriction) →
      ∀ item, restriction.satisfiedBy item
        = Lookup.holdsOn sizeTarget item ⟨"size", operator, .int 5⟩ := by
    intro operator restriction compiled item
    refine (admits_of_compile compiled item).trans ?_
    show Lookup.holds Catalog.standard item ⟨"size", operator, .int 5⟩ = _
    rw [Lookup.holds, target?_size]
    rfl
  refine ⟨restriction, opposite, compiled, compiledNegated, ?_, ?_, ?_, ?_⟩
  · rw [satisfied compiled]; decide +kernel
  · rw [satisfied compiledNegated]; decide +kernel
  · rw [satisfied compiled]; decide +kernel
  · rw [satisfied compiledNegated]; decide +kernel

end Predicate

end Sift
