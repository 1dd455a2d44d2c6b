/-
**The truth of a predicate, given the truth of its lookups.**

A group disregards the children that say nothing. If none are left it says nothing itself, and
otherwise it is true when all, any or not all of the rest are. So a predicate may have no truth
value at all, and that is the case exactly where it has no lookups, however many groups it has.

* `Predicate.lookups` — the lookups of a predicate, in the order of the tree.
* `Connective.truth`, `Predicate.truth` — the truth of a group and of a predicate.
* `Predicate.tree_induction` — induction over a predicate, with the hypothesis at every child.
* `Predicate.truth_eq_none_iff` — a predicate has no truth value exactly when it has no lookups.
-/

import Sift.Predicate.Basic

namespace Sift

/-! ### Trees -/

namespace Predicate

mutual

/-- The lookups of a predicate, in the order of the tree. -/
def lookups : Predicate → List Lookup
  | .leaf lookup => [lookup]
  | .group _ children => lookupsOfAll children

/-- The lookups of several predicates. -/
def lookupsOfAll : List Predicate → List Lookup
  | [] => []
  | child :: rest => lookups child ++ lookupsOfAll rest

end

/-- **Induction over a predicate.** A group has the hypothesis at every child. -/
theorem tree_induction {motive : Predicate → Prop} (leaf : ∀ lookup, motive (.leaf lookup))
    (group : ∀ connective children, (∀ child ∈ children, motive child) →
      motive (.group connective children)) (predicate : Predicate) : motive predicate := by
  refine @Predicate.rec motive (fun children => ∀ child ∈ children, motive child) leaf group
    (fun _ member => nomatch member) (fun first rest here later child member => ?_) predicate
  rcases List.mem_cons.mp member with rfl | member
  · exact here
  · exact later child member

theorem lookups_group (connective : Connective) (children : List Predicate) :
    (group connective children).lookups = children.flatMap lookups := by
  show lookupsOfAll children = children.flatMap lookups
  induction children with
  | nil => rfl
  | cons child rest ih => rw [lookupsOfAll, ih, List.flatMap_cons]

/-- A group has no lookups when none of its children has any. -/
theorem lookups_group_eq_nil_iff {connective : Connective} {children : List Predicate} :
    (group connective children).lookups = [] ↔ ∀ child ∈ children, child.lookups = [] := by
  rw [lookups_group, List.flatMap_eq_nil_iff]

theorem mapLeavesAll_eq_mapM (replace : Lookup → Except QueryError Predicate)
    (children : List Predicate) :
    mapLeavesAll replace children = children.mapM (mapLeaves replace) := by
  induction children with
  | nil => rfl
  | cons child rest ih => rw [mapLeavesAll, ih, List.mapM_cons]

end Predicate

/-! ### Truth -/

namespace Connective

/-- The truth of a group from that of the children that say something. -/
def truth : Connective → List Bool → Option Bool
  | _, [] => none
  | .all, truths => some (truths.all id)
  | .any, truths => some (truths.any id)
  | .notAll, truths => some (!truths.all id)

/-- A group has no truth value when no child has one. -/
theorem truth_eq_none_iff {connective : Connective} {truths : List Bool} :
    connective.truth truths = none ↔ truths = [] := by
  cases truths with
  | nil => exact iff_of_true rfl rfl
  | cons first rest => cases connective <;> simp [truth]

/-- The order of the children does not matter. -/
theorem truth_perm (connective : Connective) {truths others : List Bool}
    (same : truths.Perm others) : connective.truth truths = connective.truth others := by
  have everyOne : truths.all id = others.all id :=
    Bool.eq_iff_iff.mpr (by simp only [List.all_eq_true, same.mem_iff])
  have someOne : truths.any id = others.any id :=
    Bool.eq_iff_iff.mpr (by simp only [List.any_eq_true, same.mem_iff])
  cases truths with
  | nil => rw [List.nil_perm.mp same]
  | cons truth rest =>
    cases others with
    | nil => exact absurd same.length_eq (by simp)
    | cons other more =>
      cases connective with
      | all => exact congrArg some everyOne
      | any => exact congrArg some someOne
      | notAll => exact congrArg (fun all => some (!all)) everyOne

end Connective

namespace Predicate

mutual

/-- The truth of a predicate, if it says anything. -/
def truth (holds : Lookup → Bool) : Predicate → Option Bool
  | .leaf lookup => some (holds lookup)
  | .group connective children => connective.truth (truths holds children)

/-- The truth of those predicates that say something. -/
def truths (holds : Lookup → Bool) : List Predicate → List Bool
  | [] => []
  | child :: rest =>
    match truth holds child with
    | none => truths holds rest
    | some value => value :: truths holds rest

end

theorem truths_eq_filterMap (holds : Lookup → Bool) (children : List Predicate) :
    truths holds children = children.filterMap (truth holds) := by
  induction children with
  | nil => rfl
  | cons child rest ih =>
    rw [truths, List.filterMap_cons, ih]
    cases truth holds child <;> rfl

theorem truth_group (holds : Lookup → Bool) (connective : Connective)
    (children : List Predicate) :
    (group connective children).truth holds
      = connective.truth (children.filterMap (truth holds)) := by
  rw [truth, truths_eq_filterMap]

/-- **A predicate says nothing exactly when it has no lookups**, whatever these would say. -/
theorem truth_eq_none_iff (holds : Lookup → Bool) {predicate : Predicate} :
    predicate.truth holds = none ↔ predicate.lookups = [] := by
  induction predicate using tree_induction with
  | leaf lookup => simp [truth, lookups]
  | group connective children ih =>
    rw [truth_group, Connective.truth_eq_none_iff, List.filterMap_eq_nil_iff,
      lookups_group_eq_nil_iff]
    exact ⟨fun silent child member => (ih child member).mp (silent child member),
      fun silent child member => (ih child member).mpr (silent child member)⟩

end Predicate

end Sift
