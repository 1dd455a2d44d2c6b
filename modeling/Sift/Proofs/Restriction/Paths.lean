/-
**A restriction looks only at the fields it lists.**

The paths of the leaves are collected while the tree is walked, each path where it comes up first.
Nothing else of an item is looked at: a leaf asks for the value under its path, a group asks its
parts. So it makes no difference to have the same values under the paths. It makes none to have equal
ones either, unless a leaf compares numbers that cannot be brought to one scale: they are compared as
floats then, and of two equal numbers one may have a float that the other has not.

* `Restriction.leaves`, `Restriction.leafPaths` — every leaf in the order of the tree, and its path,
  repetitions included.
* `Restriction.idxOf_collected_lt` — collecting keeps the order in which paths come up first.
* `Restriction.admits_congr` — items that pass the tests of the same leaves are admitted alike.
* `Restriction.fieldPaths_suffice` — what the listed paths have to do with the items admitted.
* `Restriction.equal_numbers_told_apart` — two equal numbers of which one is admitted.
-/

import Mathlib.Data.List.Induction
import Mathlib.Data.List.Nodup
import Sift.Proofs.Value.Equality

namespace Sift

namespace Restriction

/-! ### The leaves -/

/-- A leaf of a restriction. -/
inductive Leaf where
  | compare (field : FieldUri) (comparison : Comparison) (literal : Literal)
  | contains (field : FieldUri) (mode : ContainmentMode) (casing : Casing) (literal : Literal)
  | present (field : FieldUri)

namespace Leaf

def path : Leaf → FieldPath
  | .compare field _ _ | .contains field _ _ _ | .present field => field.path

/-- Whether what is stored under the path of a leaf passes its test. -/
def passes : Leaf → Option Value → Bool
  | .compare _ comparison literal, stored => comparison.holdsAt literal.value stored
  | .contains _ mode casing literal, stored => containsAt mode casing literal.text stored
  | .present _, stored => isStored stored

/-- Whether a leaf compares no number of what is stored for one of two items as a float: all of them
can be brought to one scale with the numbers of its literal and of what is stored for the other. -/
def IsExact (stored other : Option Value) : Leaf → Prop
  | .compare _ _ literal => ∀ a ∈ stored, ∀ b ∈ other,
    a.AlignedWith b ∧ a.AlignedWith literal.value ∧ b.AlignedWith literal.value
  | .contains _ _ _ _ | .present _ => True

/-- **What is equal passes the same leaves**, as far as they are exact. -/
theorem passes_congr {leaf : Leaf} {stored other : Option Value} (same : (stored == other) = true)
    (exact : leaf.IsExact stored other) : leaf.passes stored = leaf.passes other := by
  cases leaf with
  | compare field comparison literal => exact Comparison.holdsAt_congr same comparison exact
  | contains field mode casing literal => exact containsAt_congr same mode casing literal.text
  | present field => exact isStored_congr same

end Leaf

mutual

/-- Every leaf, in the order of the tree. -/
def leaves : Restriction → List Leaf
  | .and children => leavesAll children
  | .or children => leavesAll children
  | .not child => leaves child
  | .compare field comparison literal => [.compare field comparison literal]
  | .contains field mode casing literal => [.contains field mode casing literal]
  | .present field => [.present field]

def leavesAll : List Restriction → List Leaf
  | [] => []
  | child :: rest => leaves child ++ leavesAll rest

end

/-- The path of every leaf, as often as it occurs. -/
def leafPaths (restriction : Restriction) : List FieldPath :=
  restriction.leaves.map Leaf.path

mutual

/-- Collecting adds the paths of the leaves one after another. -/
theorem collectPaths_eq_foldl : ∀ (restriction : Restriction) (paths : List FieldPath),
    collectPaths paths restriction = (restriction.leaves.map Leaf.path).foldl addPath paths
  | .and children, paths => collectPathsAll_eq_foldl children paths
  | .or children, paths => collectPathsAll_eq_foldl children paths
  | .not child, paths => collectPaths_eq_foldl child paths
  | .compare _ _ _, _ => rfl
  | .contains _ _ _ _, _ => rfl
  | .present _, _ => rfl

theorem collectPathsAll_eq_foldl : ∀ (children : List Restriction) (paths : List FieldPath),
    collectPathsAll paths children = ((leavesAll children).map Leaf.path).foldl addPath paths
  | [], _ => rfl
  | child :: rest, paths => by
    rw [collectPathsAll, leavesAll, List.map_append, List.foldl_append,
      collectPaths_eq_foldl child, collectPathsAll_eq_foldl rest]

end

/-! ### Each path where it comes up first -/

/-- What is collected from a walk through paths. -/
def collected (walked : List FieldPath) : List FieldPath :=
  walked.foldl addPath []

theorem fieldPaths_eq_collected (restriction : Restriction) :
    restriction.fieldPaths = collected restriction.leafPaths :=
  collectPaths_eq_foldl restriction []

theorem mem_addPath (paths : List FieldPath) (last path : FieldPath) :
    path ∈ addPath paths last ↔ path ∈ paths ∨ path = last := by
  unfold addPath
  split
  case isTrue known =>
    refine ⟨.inl, ?_⟩
    rintro (member | rfl)
    · exact member
    · exact List.contains_iff_mem.mp known
  case isFalse => simp

theorem collected_concat (walked : List FieldPath) (last : FieldPath) :
    collected (walked ++ [last]) = addPath (collected walked) last := by
  rw [collected, List.foldl_append, List.foldl_cons, List.foldl_nil, collected]

theorem mem_collected (walked : List FieldPath) (path : FieldPath) :
    path ∈ collected walked ↔ path ∈ walked := by
  induction walked using List.reverseRecOn with
  | nil => rfl
  | append_singleton walked last ih =>
    rw [collected_concat, mem_addPath, ih, List.mem_append, List.mem_singleton]

/-- A step of a walk, by whether the path came up before. -/
theorem collected_concat_of_mem {walked : List FieldPath} {last : FieldPath}
    (known : last ∈ walked) : collected (walked ++ [last]) = collected walked := by
  rw [collected_concat, addPath, if_pos]
  exact List.contains_iff_mem.mpr ((mem_collected walked last).mpr known)

theorem collected_concat_of_not_mem {walked : List FieldPath} {last : FieldPath}
    (new : last ∉ walked) : collected (walked ++ [last]) = collected walked ++ [last] := by
  rw [collected_concat, addPath, if_neg]
  exact fun found => new ((mem_collected walked last).mp (List.contains_iff_mem.mp found))

theorem nodup_collected (walked : List FieldPath) : (collected walked).Nodup := by
  induction walked using List.reverseRecOn with
  | nil => exact List.nodup_nil
  | append_singleton walked last ih =>
    by_cases known : last ∈ walked
    · rwa [collected_concat_of_mem known]
    · rw [collected_concat_of_not_mem known]
      have apart : last ∉ collected walked := mt (mem_collected walked last).mp known
      exact ih.append (List.nodup_singleton last) (List.disjoint_singleton.mpr apart)

/-- **Collecting keeps the order in which paths come up first.** A path that never comes up has the
length of the list for its place, behind all others. -/
theorem idxOf_collected_lt (walked : List FieldPath) (path other : FieldPath) :
    (collected walked).idxOf path < (collected walked).idxOf other ↔
      walked.idxOf path < walked.idxOf other := by
  induction walked using List.reverseRecOn with
  | nil => rfl
  | append_singleton walked last ih =>
    -- What is collected has the paths of the walk, and a path of either list is found before its end.
    have once (wanted : FieldPath) := mem_collected walked wanted
    have inWalked (wanted : FieldPath) := List.idxOf_lt_length_iff (l := walked) (a := wanted)
    have inCollected (wanted : FieldPath) :=
      List.idxOf_lt_length_iff (l := collected walked) (a := wanted)
    by_cases known : last ∈ walked
    · rw [collected_concat_of_mem known]
      simp only [List.idxOf_append]
      grind
    · rw [collected_concat_of_not_mem known]
      simp only [List.idxOf_append]
      grind

/-! ### What an item is asked for -/

mutual

/-- **Items that pass the tests of the same leaves are admitted alike.** -/
theorem admits_congr {item other : Item} : ∀ {restriction : Restriction},
    (∀ leaf ∈ restriction.leaves,
      leaf.passes (item.valueAt leaf.path) = leaf.passes (other.valueAt leaf.path)) →
    admits item restriction = admits other restriction
  | .and _, agree => admitsAll_congr agree
  | .or _, agree => admitsAny_congr agree
  | .not child, agree => by
    have same : admits item child = admits other child := admits_congr agree
    rw [admits, admits, same]
  | .compare _ _ _, agree => agree _ (List.mem_singleton_self _)
  | .contains _ _ _ _, agree => agree _ (List.mem_singleton_self _)
  | .present _, agree => agree _ (List.mem_singleton_self _)

theorem admitsAll_congr {item other : Item} : ∀ {children : List Restriction},
    (∀ leaf ∈ leavesAll children,
      leaf.passes (item.valueAt leaf.path) = leaf.passes (other.valueAt leaf.path)) →
    admitsAll item children = admitsAll other children
  | [], _ => rfl
  | child :: rest, agree => by
    have first := admits_congr fun leaf member => agree leaf (List.mem_append_left _ member)
    have others := admitsAll_congr fun leaf member => agree leaf (List.mem_append_right _ member)
    rw [admitsAll, admitsAll, first, others]

theorem admitsAny_congr {item other : Item} : ∀ {children : List Restriction},
    (∀ leaf ∈ leavesAll children,
      leaf.passes (item.valueAt leaf.path) = leaf.passes (other.valueAt leaf.path)) →
    admitsAny item children = admitsAny other children
  | [], _ => rfl
  | child :: rest, agree => by
    have first := admits_congr fun leaf member => agree leaf (List.mem_append_left _ member)
    have others := admitsAny_congr fun leaf member => agree leaf (List.mem_append_right _ member)
    rw [admitsAny, admitsAny, first, others]

end

/-- The path of each leaf is listed. -/
theorem mem_fieldPaths {restriction : Restriction} {leaf : Leaf}
    (member : leaf ∈ restriction.leaves) : leaf.path ∈ restriction.fieldPaths := by
  rw [fieldPaths_eq_collected, mem_collected]
  exact List.mem_map_of_mem member

/-- **A restriction looks only at the fields it lists.** It lists the path of each leaf exactly once,
in the order in which they come up first. Two items that have the same values under these paths are
admitted alike, whatever else differs, and so are two items that have equal values there, as long as
no leaf compares numbers that cannot be brought to one scale. -/
theorem fieldPaths_suffice (restriction : Restriction) :
    (∀ path, restriction.fieldPaths.count path = if path ∈ restriction.leafPaths then 1 else 0) ∧
    (∀ path other, restriction.fieldPaths.idxOf path < restriction.fieldPaths.idxOf other ↔
      restriction.leafPaths.idxOf path < restriction.leafPaths.idxOf other) ∧
    (∀ item other : Item,
      (∀ path ∈ restriction.fieldPaths, item.valueAt path = other.valueAt path) →
      restriction.satisfiedBy item = restriction.satisfiedBy other) ∧
    ∀ item other : Item,
      (∀ path ∈ restriction.fieldPaths, (item.valueAt path == other.valueAt path) = true) →
      (∀ leaf ∈ restriction.leaves,
        leaf.IsExact (item.valueAt leaf.path) (other.valueAt leaf.path)) →
      restriction.satisfiedBy item = restriction.satisfiedBy other := by
  refine ⟨fun path => ?once, ?order, fun item other same => ?same,
    fun item other equal exact => ?equal⟩
  case once =>
    rw [fieldPaths_eq_collected, List.Nodup.count (nodup_collected _)]
    exact if_congr (mem_collected _ path) rfl rfl
  case order =>
    rw [fieldPaths_eq_collected]
    exact idxOf_collected_lt restriction.leafPaths
  case same =>
    exact admits_congr fun leaf member => congrArg leaf.passes (same _ (mem_fieldPaths member))
  case equal =>
    exact admits_congr fun leaf member =>
      leaf.passes_congr (equal _ (mem_fieldPaths member)) (exact leaf member)

/-- Two items of different identity, one with a sender and one with a size, a restriction that looks
at the subject twice, and one that looks at the price, which is written with one more zero for one of
the items. -/
theorem fieldPaths_suffice_subject :
    let subject : FieldUri := ⟨"item:Subject", none, .ofField "subject"⟩
    let price : FieldUri := ⟨"item:Price", none, .ofField "price"⟩
    let titled : Restriction :=
      .or [.not (.present subject), .contains subject .prefixed .exact ⟨.text "New", "New", rfl⟩]
    let priced : Restriction :=
      .not (.compare price .greater ⟨.decimal ⟨12, 1, by decide, by decide⟩, "1.2", by cbv⟩)
    let item : Item := ⟨⟨"a", some "1"⟩, [("price", .decimal ⟨150, 2, by decide, by decide⟩),
      ("sender", .text "Ada"), ("subject", .text "News")]⟩
    let other : Item := ⟨⟨"b", none⟩, [("price", .decimal ⟨15, 1, by decide, by decide⟩),
      ("size", .int 7), ("subject", .text "News")]⟩
    titled.fieldPaths = [.ofField "subject"] ∧ priced.fieldPaths = [.ofField "price"] ∧
      titled.satisfiedBy item = titled.satisfiedBy other ∧
      priced.satisfiedBy item = priced.satisfiedBy other := by
  intro subject price titled priced item other
  refine ⟨rfl, rfl, (fieldPaths_suffice titled).2.2.1 item other fun path listed => ?_,
    (fieldPaths_suffice priced).2.2.2 item other (fun path listed => ?_) fun leaf member => ?_⟩
  · cases List.mem_singleton.mp listed
    rfl
  · cases List.mem_singleton.mp listed
    decide +kernel
  · cases List.mem_singleton.mp member
    intro a stored b otherStored
    cases Option.some.inj stored
    cases Option.some.inj otherStored
    simp only [Value.AlignedWith, Value.numbers, List.forall_mem_singleton]
    decide

/-- **Two equal numbers of which one is admitted.** They are one number with and without a zero behind
the point, and the number that they are compared with is greater by one. With the zero the numbers
cannot be brought to one scale, and as floats they are the same. -/
theorem equal_numbers_told_apart :
    let price : FieldUri := ⟨"task:PercentComplete", none, .ofField "percent_complete"⟩
    let greater : Decimal :=
      ⟨17014118346046923173168730371588410573, 0, by decide, by decide⟩
    let priced : Restriction :=
      .compare price .equal ⟨.decimal greater, "17014118346046923173168730371588410573", by cbv⟩
    let item : Item := ⟨⟨"a", none⟩, [("percent_complete",
      .decimal ⟨17014118346046923173168730371588410572, 0, by decide, by decide⟩)]⟩
    let other : Item := ⟨⟨"b", none⟩, [("percent_complete",
      .decimal ⟨170141183460469231731687303715884105720, 1, by decide, by decide⟩)]⟩
    (∀ path ∈ priced.fieldPaths, (item.valueAt path == other.valueAt path) = true) ∧
      priced.satisfiedBy item = false ∧ priced.satisfiedBy other = true := by
  intro price greater priced item other
  refine ⟨fun path listed => ?_, by decide +kernel, by decide +kernel⟩
  cases List.mem_singleton.mp listed
  decide +kernel

end Restriction

end Sift
