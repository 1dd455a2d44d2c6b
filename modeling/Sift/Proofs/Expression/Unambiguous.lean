/-
**Expressions are unambiguous.**

The expression of a predicate, read as it stands, has the truth of the predicate. So two predicates
with one expression have one truth, however their groups are nested: no parenthesis and no negation
is missing. Their lookups must have texts that can be told from the rest of an expression.

What carries the proof is what a text conveys of a predicate (`Predicate.Conveys`): the truth of the
predicate, read as all there is between two parentheses, and also as a part beside others where the
predicate is written without parentheses there.

* `Predicate.Conveys.single`, `Predicate.Conveys.several` — the expression of a group conveys it if
  those of its children convey them.
* `Predicate.exists_conveys` — every expression conveys its predicate.
* `Predicate.meaning?_expression` — reading an expression gives the truth of the predicate.
* `Predicate.expression_unambiguous` — predicates with one expression have one truth.
-/

import Mathlib.Data.List.Perm.Basic
import Sift.Proofs.Expression.Reading
import Sift.Proofs.Predicate.Identity
import Sift.Proofs.Sorting

namespace Sift.Predicate

open Expression

variable {holds : String → Bool} {predicate child : Predicate} {text : String} {value : Bool}

/-- The truth of a predicate, given the truth of each text of a lookup. -/
def truthOfTexts (holds : String → Bool) (predicate : Predicate) : Option Bool :=
  predicate.truth fun lookup => holds lookup.describe

theorem truthOfTexts_group (connective : Connective) (children : List Predicate) :
    (group connective children).truthOfTexts holds
      = connective.truth (children.filterMap (truthOfTexts holds)) :=
  truth_group _ connective children

/-- A predicate without an expression has no truth. -/
theorem truthOfTexts_eq_none (silent : predicate.expression? = none) :
    predicate.truthOfTexts holds = none :=
  (truth_eq_none_iff _).mpr (expression?_eq_none_iff.mp silent)

/-- **What a text conveys of a predicate**: its truth, as all there is between two parentheses, and
as a part if the predicate is bare. -/
structure Conveys (holds : String → Bool) (predicate : Predicate) (text : String) (value : Bool) :
    Prop where
  truth : predicate.truthOfTexts holds = some value
  whole : ReadsWhole holds text value
  bare : predicate.isBare = true → ReadsPart holds text value

namespace Conveys

/-- Beside others, a predicate that is not bare stands in parentheses. -/
theorem part (conveys : Conveys holds predicate text value) :
    ReadsPart holds (if predicate.isBare then text else "(" ++ text ++ ")") value := by
  by_cases bare : predicate.isBare = true
  · rw [if_pos bare]
    exact conveys.bare bare
  · rw [if_neg bare]
    exact conveys.whole.enclosed

/-- A text that is read as a part conveys the predicate in any place. -/
theorem of_part (truth : predicate.truthOfTexts holds = some value)
    (part : ReadsPart holds text value) : Conveys holds predicate text value :=
  ⟨truth, part.whole, fun _ => part⟩

/-! ### Groups of one child -/

theorem isBare_of_isLeaf (single : predicate.flattened.isLeaf = true) :
    predicate.isBare = true := by
  unfold isBare
  cases shape : predicate.flattened with
  | leaf lookup => rfl
  | group connective children =>
    rw [shape] at single
    cases single

/-- The negation of a text in parentheses. -/
theorem negated_whole (whole : ReadsWhole holds text value) :
    ReadsPart holds (wrap .notAll false text) (!value) := by
  have split : wrap .notAll false text = "NOT " ++ ("(" ++ text ++ ")") := by
    rw [← String.append_assoc, ← String.append_assoc]
    rfl
  rw [split]
  exact whole.enclosed.negate

/-- The negation of what a text conveys, in parentheses unless it is a single lookup. -/
theorem negated (conveys : Conveys holds predicate text value) :
    ReadsPart holds (wrap .notAll predicate.flattened.isLeaf text) (!value) := by
  by_cases single : predicate.flattened.isLeaf = true
  · rw [single]
    exact (conveys.bare (isBare_of_isLeaf single)).negate
  · rw [Bool.eq_false_iff.mpr single]
    exact negated_whole conveys.whole

/-- **The expression of a group of one child** conveys the group. -/
theorem single (connective : Connective) (conveys : Conveys holds child text value) :
    ∃ value, Conveys holds (group connective [child])
      (wrap connective child.flattened.isLeaf text) value := by
  have truth : (group connective [child]).truthOfTexts holds = connective.truth [value] := by
    rw [truthOfTexts_group, List.filterMap_cons, conveys.truth]
    rfl
  cases connective with
  | all => exact ⟨value, by rw [truth]; cases value <;> rfl, conveys.whole, conveys.bare⟩
  | any => exact ⟨value, by rw [truth]; cases value <;> rfl, conveys.whole, conveys.bare⟩
  | notAll => exact ⟨!value, of_part (by rw [truth]; cases value <;> rfl) conveys.negated⟩

/-! ### Groups of several children -/

/-- How the parts of a group are connected: those of a negated group as in a group of which all have
to hold. -/
def joint : Connective → Connective
  | .any => .any
  | .all | .notAll => .all

/-- Parts that are read as such are connected to a text that has the truth of all of them. -/
theorem readsWhole_joinParts {connective : Connective} {parts : List Part} {values : List Bool}
    (each : List.Forall₂ (fun part value => ReadsPart holds part.text value) parts values)
    (truth : (joint connective).truth values = some value) :
    ReadsWhole holds (joinParts connective parts) value := by
  -- The parts are put in the order of their keys, and their truths with them.
  have reordered := perm_stableSort (fun a b : Part => a.sortKey < b.sortKey) parts
  obtain ⟨truths, eachSorted, same⟩ := List.perm_comp_forall₂ reordered each
  have spacing : (joiner connective).toList = spaced (joint connective) := by
    cases connective <;> rfl
  refine readsWhole_joined (by cases connective <;> decide) spacing
    (List.forall₂_map_left_iff.mpr eachSorted) ?_
  rwa [Connective.truth_perm _ same]

/-- What a child contributes to the text of a group is read as a part, with the truth of the child,
and there is nothing of it if the child has no truth. -/
theorem rel_part?
    (conveyed : ∀ text, child.expression? = some text → ∃ value, Conveys holds child text value) :
    Option.Rel (fun part value => ReadsPart holds part.text value) child.part?
      (child.truthOfTexts holds) := by
  rw [part?]
  cases written : child.expression? with
  | none =>
    rw [truthOfTexts_eq_none written]
    exact .none
  | some text =>
    obtain ⟨value, conveys⟩ := conveyed text written
    rw [conveys.truth]
    exact .some conveys.part

/-- **The expression of a group of several children** conveys the group. -/
theorem several {connective : Connective} {first second : Predicate} {rest : List Predicate}
    (conveyed : ∀ child ∈ first :: second :: rest, ∀ text, child.expression? = some text →
      ∃ value, Conveys holds child text value)
    (written : (group connective (first :: second :: rest)).expression? = some text) :
    ∃ value, Conveys holds (group connective (first :: second :: rest)) text value := by
  have each : List.Forall₂ (fun part value => ReadsPart holds part.text value)
      ((first :: second :: rest).filterMap part?)
      ((first :: second :: rest).filterMap (truthOfTexts holds)) := by
    refine List.rel_filterMap (R := fun child other => child = other ∧
      child ∈ first :: second :: rest) ?_ (List.forall₂_same.mpr fun child member => ⟨rfl, member⟩)
    rintro child other ⟨rfl, member⟩
    exact rel_part? (conveyed child member)
  have truth : (group connective (first :: second :: rest)).truthOfTexts holds
      = connective.truth ((first :: second :: rest).filterMap (truthOfTexts holds)) :=
    truthOfTexts_group connective _
  rw [expression?_group_of_pair] at written
  generalize (first :: second :: rest).filterMap part? = parts at each written
  generalize (first :: second :: rest).filterMap (truthOfTexts holds) = values at each truth
  cases each with
  | nil => cases written
  | @cons part value parts values here each =>
    cases written
    have all : List.Forall₂ (fun part value => ReadsPart holds part.text value)
        (part :: parts) (value :: values) := .cons here each
    cases connective with
    | all => exact ⟨_, truth, readsWhole_joinParts all rfl, nofun⟩
    | any => exact ⟨_, truth, readsWhole_joinParts all rfl, nofun⟩
    | notAll =>
      have joined : ReadsWhole holds (joinParts .notAll (part :: parts))
          ((value :: values).all id) := readsWhole_joinParts all rfl
      exact ⟨_, of_part truth (negated_whole joined)⟩

end Conveys

/-! ### Expressions -/

/-- Whether the texts of all lookups of a predicate can be told from the rest of an expression. -/
def PlainTexts (predicate : Predicate) : Prop :=
  ∀ lookup ∈ predicate.lookups, Plain lookup.describe

theorem PlainTexts.of_mem {connective : Connective} {children : List Predicate}
    (plain : (group connective children).PlainTexts) (member : child ∈ children) :
    child.PlainTexts := by
  intro lookup inside
  refine plain lookup ?_
  rw [lookups_group]
  exact List.mem_flatMap.mpr ⟨child, member, inside⟩

/-- The text of a lookup has at least the blanks around its operator. -/
theorem describe_ne_empty (lookup : Lookup) : lookup.describe ≠ "" := by
  intro empty
  have blank : ' ' ∈ lookup.describe.toList := by
    simp [Lookup.describe]
  rw [empty] at blank
  cases blank

/-- **Every expression conveys its predicate.** -/
theorem exists_conveys (holds : String → Bool) (plain : predicate.PlainTexts)
    (written : predicate.expression? = some text) :
    ∃ value, Conveys holds predicate text value := by
  induction predicate using tree_induction generalizing text with
  | leaf lookup =>
    obtain rfl := Option.some.inj written
    have plainText : Plain lookup.describe := plain lookup List.mem_cons_self
    exact ⟨_, .of_part rfl (readsPart_lookup plainText (describe_ne_empty lookup))⟩
  | group connective children ih =>
    have conveyed : ∀ child ∈ children, ∀ text, child.expression? = some text →
        ∃ value, Conveys holds child text value := by
      intro child member text written
      exact ih child member (PlainTexts.of_mem plain member) written
    rcases children with _ | ⟨first, _ | ⟨second, rest⟩⟩
    · cases written
    · obtain ⟨inner, writtenInner, rfl⟩ := Option.map_eq_some_iff.mp written
      obtain ⟨value, conveys⟩ := conveyed first List.mem_cons_self inner writtenInner
      exact conveys.single connective
    · exact Conveys.several conveyed written

/-- **Reading an expression** gives the truth of the predicate, from the truths of the texts of its
lookups. -/
theorem meaning?_expression (holds : String → Bool) (plain : predicate.PlainTexts)
    (written : predicate.expression? = some text) :
    meaning? holds text = predicate.truthOfTexts holds := by
  obtain ⟨value, conveys⟩ := exists_conveys holds plain written
  rw [conveys.truth, conveys.whole.meaning?_eq]

/-- **Expressions are unambiguous.** Predicates with one expression have one truth, or none both,
for any truths of the texts of their lookups, as long as these texts are plain. -/
theorem expression_unambiguous {p q : Predicate} (plainLeft : p.PlainTexts)
    (plainRight : q.PlainTexts) (same : p.expression? = q.expression?) (holds : String → Bool) :
    (p.truth fun lookup => holds lookup.describe)
      = q.truth fun lookup => holds lookup.describe := by
  show p.truthOfTexts holds = q.truthOfTexts holds
  cases written : p.expression? with
  | none =>
    have silent : q.expression? = none := same.symm.trans written
    rw [truthOfTexts_eq_none written, truthOfTexts_eq_none silent]
  | some text =>
    have writtenRight : q.expression? = some text := same.symm.trans written
    rw [← meaning?_expression holds plainLeft written,
      ← meaning?_expression holds plainRight writtenRight]

/-- Groups that add nothing in two places, and siblings in two orders, are written alike. -/
theorem expression_unambiguous_nested :
    let large := compare "size" .greater (.int 9)
    let unread := compare "is_read" .notEqual (.bool true)
    let p := group .all [group .notAll [group .any [large, .empty]], group .any [large, unread]]
    let q := group .all [group .any [group .notAll [large, .empty]],
      group .any [unread, group .notAll [], large], .empty]
    (p.PlainTexts ∧ q.PlainTexts ∧ p.expression? = q.expression?) ∧
      p.expression? = some "NOT (size > 9) AND (is_read != true OR size > 9)" ∧
      ∀ holds : String → Bool, (p.truth fun lookup => holds lookup.describe)
        = q.truth fun lookup => holds lookup.describe := by
  intro large unread p q
  have plainLarge : Plain (Lookup.mk "size" .greater (.int 9)).describe :=
    ⟨by decide +kernel, by decide +kernel, by rintro (_ | _ | _) <;> decide +kernel⟩
  have plainUnread : Plain (Lookup.mk "is_read" .notEqual (.bool true)).describe :=
    ⟨by decide +kernel, by decide +kernel, by rintro (_ | _ | _) <;> decide +kernel⟩
  have plainLeft : p.PlainTexts := List.forall_mem_cons.mpr ⟨plainLarge,
    List.forall_mem_cons.mpr ⟨plainLarge, List.forall_mem_singleton.mpr plainUnread⟩⟩
  have plainRight : q.PlainTexts := List.forall_mem_cons.mpr ⟨plainLarge,
    List.forall_mem_cons.mpr ⟨plainUnread, List.forall_mem_singleton.mpr plainLarge⟩⟩
  have left : p.expression? = some "NOT (size > 9) AND (is_read != true OR size > 9)" := by
    decide +kernel
  have right : q.expression? = some "NOT (size > 9) AND (is_read != true OR size > 9)" := by
    decide +kernel
  have same := left.trans right.symm
  exact ⟨⟨plainLeft, plainRight, same⟩, left, expression_unambiguous plainLeft plainRight same⟩

end Sift.Predicate
