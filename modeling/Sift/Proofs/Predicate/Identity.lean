/-
**Predicates that say nothing.**

A predicate without lookups restricts nothing, however many groups it has, and a predicate with a
lookup never comes to that: it has an expression, and where it compiles it has a restriction.

* `Predicate.expression?_eq_none_iff`, `Predicate.lookups_negate_eq_nil_iff` — who says nothing.
* `Predicate.compile_of_silent` — a predicate without lookups compiles to no restriction.
* `Predicate.silent_iff` — all of it together, and that combining with a predicate without lookups
  changes nothing in what is compiled.
-/

import Sift.Predicate.Expression
import Sift.Proofs.Restriction.Meaning

namespace Sift.Predicate

/-! ### Expressions -/

/-- The part that a child contributes to the expression of a group, if it says anything. -/
def part? (child : Predicate) : Option Part :=
  child.expression?.map fun text =>
    ⟨child.sortKey, if child.isBare then text else "(" ++ text ++ ")"⟩

theorem childParts_eq_filterMap (children : List Predicate) :
    childParts children = children.filterMap part? := by
  induction children with
  | nil => rfl
  | cons child rest ih =>
    rw [childParts, List.filterMap_cons, part?, ih]
    cases expression? child <;> rfl

/-- The expression of a group of several children from the parts that these contribute. -/
theorem expression?_group_of_pair (connective : Connective) (first second : Predicate)
    (rest : List Predicate) :
    (group connective (first :: second :: rest)).expression?
      = match (first :: second :: rest).filterMap part? with
        | [] => none
        | parts => some (wrap connective false (joinParts connective parts)) := by
  have same := childParts_eq_filterMap (first :: second :: rest)
  generalize (first :: second :: rest).filterMap part? = parts at same ⊢
  cases parts with
  | nil => rw [expression?, same]
  | cons part parts => rw [expression?, same]

/-- **A predicate has no expression exactly when it has no lookups.** -/
theorem expression?_eq_none_iff {predicate : Predicate} :
    predicate.expression? = none ↔ predicate.lookups = [] := by
  induction predicate using tree_induction with
  | leaf lookup => simp [expression?, lookups]
  | group connective children ih =>
    rw [lookups_group_eq_nil_iff]
    rcases children with _ | ⟨first, _ | ⟨second, rest⟩⟩
    · simp [expression?]
    · rw [expression?, Option.map_eq_none_iff, ih first List.mem_cons_self]
      simp
    · have parts : (group connective (first :: second :: rest)).expression? = none ↔
          childParts (first :: second :: rest) = [] := by
        rw [expression?]
        cases childParts (first :: second :: rest) <;> simp
      rw [parts, childParts_eq_filterMap, List.filterMap_eq_nil_iff]
      refine ⟨fun silent child member => (ih child member).mp ?_, fun silent child member => ?_⟩
      · exact Option.map_eq_none_iff.mp (silent child member)
      · exact Option.map_eq_none_iff.mpr ((ih child member).mpr (silent child member))

/-! ### Lookups of combined predicates -/

/-- What is empty has no lookups. -/
theorem lookups_of_isEmpty {predicate : Predicate} (empty : predicate.isEmpty = true) :
    predicate.lookups = [] := by
  unfold isEmpty at empty
  split at empty
  · rfl
  · cases empty

/-- Leaving out what is empty leaves out no lookups. -/
theorem lookups_groupOf (connective : Connective) (children : List Predicate) :
    (groupOf connective children).lookups = children.flatMap lookups := by
  rw [groupOf, lookups_group]
  induction children with
  | nil => rfl
  | cons child rest ih =>
    rw [List.filter_cons, List.flatMap_cons, ← ih]
    cases empty : child.isEmpty with
    | true => rw [lookups_of_isEmpty empty]; rfl
    | false => rfl

/-- **A negation has no lookups exactly when the predicate has none.** -/
theorem lookups_negate_eq_nil_iff {predicate : Predicate} :
    predicate.negate.lookups = [] ↔ predicate.lookups = [] := by
  unfold negate
  split
  · split <;> simp [lookups, lookupsOfAll]
  · rw [lookups_group, lookups_group]
  · rfl
  · rw [lookups_group_eq_nil_iff]
    simp

/-! ### Compiling what says nothing -/

variable {catalog : Catalog} {predicate identity : Predicate}

/-- A predicate without lookups is resolved already. -/
theorem resolve_of_silent (silent : predicate.lookups = []) :
    predicate.resolve catalog = .ok predicate := by
  induction predicate using tree_induction with
  | leaf lookup => cases silent
  | group connective children ih =>
    refine resolve_group_eq_ok_iff.mpr ⟨children, ?_, rfl⟩
    exact List.forall₂_same.mpr fun child member =>
      ih child member (lookups_group_eq_nil_iff.mp silent child member)

/-- Siblings that say nothing give nothing when they are checked. -/
theorem mapM_result_of_silent {compiled : List Compiled}
    (silent : ∀ child ∈ compiled, child.result = .ok none) :
    compiled.mapM Compiled.result = .ok (compiled.map fun _ => none) :=
  mapM_eq_ok_iff.mpr (List.forall₂_map_right_iff.mpr (List.forall₂_same.mpr silent))

/-- Siblings that say nothing leave no restrictions. -/
theorem siblings_of_silent {compiled : List Compiled}
    (silent : ∀ child ∈ compiled, child.result = .ok none) : siblings compiled = .ok [] := by
  have sorted := perm_stableSort (fun a b : Compiled => a.sortKey < b.sortKey) compiled
  refine bind_eq_ok_iff.mpr ⟨_, mapM_result_of_silent fun child member =>
    silent child (sorted.mem_iff.mp member), ?_⟩
  exact congrArg Except.ok (List.filterMap_eq_nil_iff.mpr fun part member => by simp_all)

/-- A predicate without lookups compiles to no restriction. -/
theorem compileResolved_of_silent (silent : predicate.lookups = []) :
    predicate.compileResolved catalog = .ok none := by
  induction predicate using tree_induction with
  | leaf lookup => cases silent
  | group connective children ih =>
    have gathered : siblings (compileAll catalog children) = .ok [] := by
      rw [compileAll_eq_map]
      refine siblings_of_silent fun compiled member => ?_
      obtain ⟨child, here, rfl⟩ := List.mem_map.mp member
      exact ih child here (lookups_group_eq_nil_iff.mp silent child here)
    refine bind_eq_ok_iff.mpr ⟨[], gathered, ?_⟩
    cases connective <;> rfl

/-- **A predicate without lookups compiles to no restriction**, and never fails to. -/
theorem compile_of_silent (silent : predicate.lookups = []) :
    predicate.compile catalog = .ok none :=
  bind_eq_ok_iff.mpr ⟨predicate, resolve_of_silent silent, compileResolved_of_silent silent⟩

/-! ### Combining with what says nothing -/

/-- **Where all siblings but one say nothing, that one is left**, with its error if it has one. -/
theorem siblings_of_others_silent {compiled others : List Compiled} {child : Compiled}
    (siblings_perm : compiled.Perm (child :: others))
    (silent : ∀ other ∈ others, other.result = .ok none) :
    siblings compiled = child.result.map Option.toList := by
  unfold siblings
  generalize sorting : stableSort (fun a b : Compiled => a.sortKey < b.sortKey) compiled = inOrder
  have reordered : inOrder.Perm (child :: others) :=
    sorting ▸ (perm_stableSort _ compiled).trans siblings_perm
  -- Sorting only moves the others around the child that may say something.
  obtain ⟨before, after, rfl⟩ := List.append_of_mem (reordered.mem_iff.mpr List.mem_cons_self)
  have rest : (before ++ after).Perm others :=
    (List.perm_cons child).mp (List.perm_middle.symm.trans reordered)
  have silentRest : ∀ other ∈ before ++ after, other.result = .ok none :=
    fun other member => silent other (rest.mem_iff.mp member)
  have front := mapM_result_of_silent fun other member =>
    silentRest other (List.mem_append_left after member)
  have back := mapM_result_of_silent fun other member =>
    silentRest other (List.mem_append_right before member)
  rw [List.mapM_append, List.mapM_cons, front, back]
  cases child.result with
  | error error => rfl
  | ok part => cases part <;> simp [bind, Except.bind, pure, Except.pure, Except.map]

/-- A group of one part that does not negate is that part. -/
theorem connect_toList {connective : Connective} (affirming : connective ≠ .notAll)
    (part : Option Restriction) : Restriction.connect connective part.toList = part := by
  cases connective with
  | notAll => exact absurd rfl affirming
  | _ => cases part <;> rfl

variable {connective : Connective} {before after : List Predicate}

/-- A group in which all children but one say nothing is resolved when that one is. -/
theorem resolve_group_of_others_silent
    (silent : ∀ other ∈ before ++ after, other.lookups = []) :
    (group connective (before ++ predicate :: after)).resolve catalog
      = (predicate.resolve catalog).map fun resolved =>
        group connective (before ++ resolved :: after) := by
  have unchanged : ∀ others : List Predicate, (∀ other ∈ others, other.lookups = []) →
      others.mapM (resolve catalog) = .ok others := fun others silent =>
    mapM_eq_ok_iff.mpr <| List.forall₂_same.mpr fun other member =>
      resolve_of_silent (silent other member)
  have front := unchanged before fun other member => silent other (List.mem_append_left _ member)
  have back := unchanged after fun other member => silent other (List.mem_append_right _ member)
  show (mapLeavesAll _ _ >>= _) = _
  rw [mapLeavesAll_eq_mapM, List.mapM_append, List.mapM_cons]
  show (before.mapM (resolve catalog) >>= _) >>= _ = _
  rw [front]
  show ((predicate.resolve catalog >>= fun resolved => _) >>= _) >>= _ = _
  cases predicate.resolve catalog with
  | error error => rfl
  | ok resolved =>
    show ((after.mapM (resolve catalog) >>= _) >>= _) >>= _ = _
    rw [back]
    rfl

/-- A resolved group in which all children but one say nothing compiles to what that one does. -/
theorem compileResolved_group_of_others_silent (affirming : connective ≠ .notAll)
    (silent : ∀ other ∈ before ++ after, other.lookups = []) :
    (group connective (before ++ predicate :: after)).compileResolved catalog
      = predicate.compileResolved catalog := by
  let compiled (child : Predicate) : Compiled := ⟨child.sortKey, child.compileResolved catalog⟩
  have gathered : siblings ((before ++ predicate :: after).map compiled)
      = (predicate.compileResolved catalog).map Option.toList := by
    have reordered : ((before ++ predicate :: after).map compiled).Perm
        (compiled predicate :: (before ++ after).map compiled) := List.perm_middle.map compiled
    refine siblings_of_others_silent reordered fun other member => ?_
    obtain ⟨child, here, rfl⟩ := List.mem_map.mp member
    exact compileResolved_of_silent (silent child here)
  show (siblings (compileAll catalog _) >>= _) = _
  rw [compileAll_eq_map, gathered]
  cases predicate.compileResolved catalog with
  | error error => rfl
  | ok part => exact congrArg Except.ok (connect_toList affirming part)

/-- **Combining with what says nothing changes nothing in what is compiled**, wherever the predicate
stands among the others. -/
theorem compile_groupOf_of_others_silent (before after : List Predicate)
    (affirming : connective ≠ .notAll)
    (silent : ∀ other ∈ before ++ after, other.lookups = []) :
    (groupOf connective (before ++ predicate :: after)).compile catalog
      = predicate.compile catalog := by
  -- A predicate that says nothing may be left out itself, if it is empty, so it is a case apart.
  by_cases nothing : predicate.lookups = []
  · have all : (groupOf connective (before ++ predicate :: after)).lookups = [] := by
      rw [lookups_groupOf, List.flatMap_eq_nil_iff]
      intro child member
      rcases List.mem_cons.mp (List.perm_middle.mem_iff.mp member) with rfl | other
      · exact nothing
      · exact silent child other
    rw [compile_of_silent all, compile_of_silent nothing]
  · have kept : predicate.isEmpty = false := by
      cases empty : predicate.isEmpty with
      | true => exact absurd (lookups_of_isEmpty empty) nothing
      | false => rfl
    let stays (child : Predicate) : Bool := !child.isEmpty
    have left : (before ++ predicate :: after).filter stays
        = before.filter stays ++ predicate :: after.filter stays := by
      rw [List.filter_append, List.filter_cons_of_pos (by simp [stays, kept])]
    have silentLeft : ∀ other ∈ before.filter stays ++ after.filter stays, other.lookups = [] := by
      intro other member
      rw [← List.filter_append] at member
      exact silent other (List.mem_of_mem_filter member)
    show ((group connective ((before ++ predicate :: after).filter stays)).resolve catalog >>= _)
      = _
    rw [left, resolve_group_of_others_silent silentLeft]
    show _ = (predicate.resolve catalog >>= _)
    cases predicate.resolve catalog with
    | error error => rfl
    | ok resolved => exact compileResolved_group_of_others_silent affirming silentLeft

/-- Where a predicate compiles, it has no restriction exactly when it has no lookups. -/
theorem eq_none_iff_of_compile {result : Option Restriction}
    (compiled : predicate.compile catalog = .ok result) :
    result = none ↔ predicate.lookups = [] := by
  obtain ⟨resolved, run, rest⟩ := bind_eq_ok_iff.mp compiled
  have item : Item := ⟨⟨"", none⟩, []⟩
  rw [← truth_eq_none_iff (Lookup.holds catalog item), ← truth_resolve run item,
    ← satisfiedBy_compileResolved rest item, Option.map_eq_none_iff]

/-- **Who says nothing.** A predicate has no lookups exactly when it has no expression, when its
negation has none, and, where it compiles, when it has no restriction. To combine with such a
predicate, in either order, changes nothing in what is compiled, nor in how that fails. -/
theorem silent_iff (catalog : Catalog) (predicate : Predicate) :
    (predicate.expression? = none ↔ predicate.lookups = []) ∧
      (∀ result, predicate.compile catalog = .ok result →
        (result = none ↔ predicate.lookups = [])) ∧
      (predicate.negate.lookups = [] ↔ predicate.lookups = []) ∧
      ∀ identity : Predicate, identity.lookups = [] →
        (predicate.both identity).compile catalog = predicate.compile catalog ∧
          (identity.both predicate).compile catalog = predicate.compile catalog ∧
          (predicate.either identity).compile catalog = predicate.compile catalog ∧
          (identity.either predicate).compile catalog = predicate.compile catalog := by
  refine ⟨expression?_eq_none_iff, fun result => eq_none_iff_of_compile,
    lookups_negate_eq_nil_iff, fun identity silent => ?_⟩
  have alone : ∀ other ∈ [identity], other.lookups = [] := by
    intro other member
    rw [List.mem_singleton.mp member]
    exact silent
  refine ⟨?_, ?_, ?_, ?_⟩
  · exact compile_groupOf_of_others_silent [] [identity] (by decide) alone
  · exact compile_groupOf_of_others_silent [identity] [] (by decide) alone
  · exact compile_groupOf_of_others_silent [] [identity] (by decide) alone
  · exact compile_groupOf_of_others_silent [identity] [] (by decide) alone

/-- A lookup restricts the search, and groups without lookups around it take nothing from that. -/
theorem silent_iff_compare :
    ∃ restriction,
      (compare "size" .greater (.int 9)).compile Catalog.standard = .ok (some restriction) ∧
        ((group .notAll [.empty, group .any []]).either (compare "size" .greater (.int 9))).compile
          Catalog.standard = .ok (some restriction) := by
  obtain ⟨-, restricts, -, combined⟩ :=
    silent_iff Catalog.standard (compare "size" .greater (.int 9))
  have compiles : ((compare "size" .greater (.int 9)).compile Catalog.standard).toBool = true := by
    decide +kernel
  obtain ⟨result, compiled⟩ := exists_ok_of_toBool compiles
  obtain ⟨-, -, -, unchanged⟩ := combined (group .notAll [.empty, group .any []]) (by decide)
  cases result with
  | none => cases (restricts none compiled).mp rfl
  | some restriction => exact ⟨restriction, compiled, unchanged.trans compiled⟩

end Sift.Predicate
