/-
**The order of siblings is canonical.**

Compiling puts the children of a group in the order of their sort keys, and so does an expression.
So the order in which they are given shows only among children with one key. Compiling takes the
keys from the resolved forms of the children, an expression from the children as they are.

What stands around the group does not see the order either: a group of several children has one sort
key, whatever these are, and a group of one child cannot be put in another order.

* `Predicate.resolveAlike_of_rearranged` — a group whose children come in another order resolves
  like the group.
* `Predicate.Reads`, `Predicate.Reads.fill` — predicates that read alike, and that they do so as
  parts of another.
* `Predicate.sibling_order_canonical` — what is compiled, what is written, and groups of lookups on
  different fields, which may come in any order.
-/

import Sift.Catalog.Standard
import Sift.Proofs.Predicate.DoubleNegation
import Sift.Proofs.Sorting

namespace Sift.Predicate

variable {catalog : Catalog} {children others : List Predicate}

/-! ### Compiling -/

/-- The sort key of the resolved form of a predicate, if it has one. -/
def resolvedKey? (catalog : Catalog) (predicate : Predicate) : Option String :=
  (predicate.resolve catalog).toOption.map sortKey

/-- A child as it is compiled in a group, if it can be resolved. -/
def compiled? (catalog : Catalog) (child : Predicate) : Option Compiled :=
  (child.resolve catalog).toOption.map fun part => ⟨part.sortKey, part.compileResolved catalog⟩

/-- The resolved forms of children are compiled as the children are. -/
theorem compileAll_eq_filterMap {parts : List Predicate}
    (each : List.Forall₂ (fun child part => child.resolve catalog = .ok part) children parts) :
    compileAll catalog parts = children.filterMap (compiled? catalog) := by
  rw [compileAll_eq_map, ← List.filterMap_eq_map]
  refine (filterMap_eq_filterMap_of_forall₂ each fun child _ part run => ?_).symm
  rw [compiled?, run]
  rfl

/-- What a group is ordered by depends on the keys of its children, in any order. -/
theorem sortKey_group_of_perm (connective : Connective) {parts others : List Predicate}
    (same : (others.map sortKey).Perm (parts.map sortKey)) :
    (group connective others).sortKey = (group connective parts).sortKey := by
  have length : others.length = parts.length := by simpa using same.length_eq
  match parts, others with
  | [], [] => rfl
  | [part], [other] =>
    have keys : other.sortKey = part.sortKey := by simpa using same
    cases connective <;> first | exact keys | rfl
  | _ :: _ :: _, _ :: _ :: _ => rw [sortKey_group_of_pair, sortKey_group_of_pair]

/-- **A group whose children come in another order resolves like the group**, if those whose
resolved forms have one key come as before. -/
theorem resolveAlike_of_rearranged (connective : Connective)
    (resolves : ∀ child ∈ children, ∃ part, child.resolve catalog = .ok part)
    (rearranged : Rearranged (resolvedKey? catalog) children others) :
    ResolveAlike catalog (.group connective others) (.group connective children) := by
  have parts : ∀ {list : List Predicate}, (∀ child ∈ list, child ∈ children) →
      ∃ parts, List.Forall₂ (fun child part => child.resolve catalog = .ok part) list parts := by
    intro list within
    obtain ⟨parts, checked⟩ := exists_mapM_eq_ok fun child member =>
      resolves child (within child member)
    exact ⟨parts, mapM_eq_ok_iff.mp checked⟩
  obtain ⟨given, each⟩ := parts fun child member => member
  obtain ⟨moved, eachMoved⟩ := parts fun child => rearranged.perm.mem_iff.mp
  have siblingsRearranged :
      Rearranged Compiled.sortKey (compileAll catalog given) (compileAll catalog moved) := by
    rw [compileAll_eq_filterMap each, compileAll_eq_filterMap eachMoved]
    refine rearranged.filterMap (fun _ _ => Option.some.inj) fun child compiled made => ?_
    obtain ⟨part, run, rfl⟩ := Option.map_eq_some_iff.mp made
    exact congrArg (Option.map sortKey) run
  have keys : ∀ list : List Predicate,
      (compileAll catalog list).map Compiled.sortKey = list.map sortKey := by
    intro list
    rw [compileAll_eq_map, List.map_map]
    rfl
  show Agree _ _ _
  rw [resolve_group_eq_ok_iff.mpr ⟨moved, eachMoved, rfl⟩,
    resolve_group_eq_ok_iff.mpr ⟨given, each, rfl⟩]
  refine .passed ⟨?_, sortKey_group_of_perm connective ?_⟩
  · show (siblings (compileAll catalog moved) >>= _) = (siblings (compileAll catalog given) >>= _)
    rw [siblings, siblings, siblingsRearranged.stableSort_eq]
  · rw [← keys, ← keys]
    exact siblingsRearranged.perm.map _

/-- Where a predicate can be resolved, so can what stands at any place in it. -/
theorem Context.exists_resolve {predicate whole : Predicate} (context : Context)
    (run : (context.fill predicate).resolve catalog = .ok whole) :
    ∃ resolved, predicate.resolve catalog = .ok resolved := by
  induction context generalizing whole with
  | here => exact ⟨whole, run⟩
  | inside connective before context after ih =>
    obtain ⟨parts, each, -⟩ := resolve_group_eq_ok_iff.mp run
    obtain ⟨-, _, -, rest, -⟩ := exists_append_of_forall₂ each
    obtain ⟨part, _, here, -⟩ := List.forall₂_cons_left_iff.mp rest
    exact ih here

/-! ### Expressions -/

/-- Whether two predicates read alike: they have the same expression, and stand in the same place
and in the same parentheses among siblings. -/
structure Reads (a b : Predicate) : Prop where
  expression : a.expression? = b.expression?
  sortKey : a.sortKey = b.sortKey
  bare : a.isBare = b.isBare
  single : a.flattened.isLeaf = b.flattened.isLeaf

namespace Reads

theorem refl (predicate : Predicate) : Reads predicate predicate := ⟨rfl, rfl, rfl, rfl⟩

/-- A predicate that reads alike contributes the same part to the expression of a group. -/
theorem part_eq {a b : Predicate} (alike : Reads a b) : a.part? = b.part? := by
  rw [part?, part?, alike.expression, alike.sortKey, alike.bare]

/-- Groups of several children read alike if they have the same expression. -/
theorem of_pairs {connective : Connective} {first second third fourth : Predicate}
    {rest more : List Predicate}
    (same : (Predicate.group connective (first :: second :: rest)).expression?
      = (Predicate.group connective (third :: fourth :: more)).expression?) :
    Reads (.group connective (first :: second :: rest))
      (.group connective (third :: fourth :: more)) := by
  refine ⟨same, ?_, ?_, ?_⟩
  · rw [sortKey_group_of_pair, sortKey_group_of_pair]
  · cases connective <;> rfl
  · cases connective <;> rfl

/-- Groups of predicates that read alike read alike. -/
theorem group (each : List.Forall₂ Reads children others) (connective : Connective) :
    Reads (.group connective children) (.group connective others) := by
  cases each with
  | nil => exact .refl _
  | cons first rest =>
    cases rest with
    | nil =>
      refine ⟨?_, ?_, ?_, ?_⟩
      · rw [expression?, expression?, first.expression, first.single]
      · cases connective <;> first | exact first.sortKey | rfl
      · cases connective <;> first | exact first.bare | rfl
      · cases connective <;> first | exact first.single | rfl
    | cons second rest =>
      refine of_pairs ?_
      rw [expression?_group_of_pair, expression?_group_of_pair,
        filterMap_eq_filterMap_of_forall₂ (.cons first (.cons second rest))
          fun child _ other alike => alike.part_eq]

/-- **Predicates that read alike do so as parts of another**, at whatever place. -/
theorem fill {a b : Predicate} (alike : Reads a b) (context : Context) :
    Reads (context.fill a) (context.fill b) := by
  induction context with
  | here => exact alike
  | inside connective before context after ih =>
    have unchanged : ∀ others : List Predicate, List.Forall₂ Reads others others := fun others =>
      List.forall₂_same.mpr fun other _ => refl other
    exact group (List.rel_append (unchanged before) (.cons ih (unchanged after))) connective

/-- **A group whose children come in another order reads like the group**, if those with one key
come as before. -/
theorem of_rearranged (rearranged : Rearranged Predicate.sortKey children others)
    (connective : Connective) :
    Reads (.group connective others) (.group connective children) := by
  have partsRearranged :
      Rearranged Part.sortKey (children.filterMap part?) (others.filterMap part?) := by
    refine rearranged.filterMap Function.injective_id fun child part made => ?_
    obtain ⟨text, -, rfl⟩ := Option.map_eq_some_iff.mp made
    rfl
  have length := rearranged.perm.length_eq
  match children, others with
  | [], [] => exact .refl _
  | [child], [other] =>
    cases List.perm_singleton.mp rearranged.perm
    exact .refl _
  | first :: second :: rest, third :: fourth :: more =>
    refine of_pairs ?_
    rw [expression?_group_of_pair, expression?_group_of_pair]
    have joined := partsRearranged.stableSort_eq
    have perm := partsRearranged.perm
    generalize (third :: fourth :: more).filterMap part? = moved at joined perm ⊢
    generalize (first :: second :: rest).filterMap part? = given at joined perm ⊢
    cases given with
    | nil => rw [perm.eq_nil]
    | cons part parts =>
      cases moved with
      | nil => cases perm.nil_eq
      | cons => simp only [joinParts, joined]

end Reads

/-! ### Lookups on different fields -/

/-- A lookup that stays one when it is resolved keeps its field. -/
theorem field_of_resolvesTo {target : Target} {operator : Operator} {value : Value}
    {predicate : Predicate} {lookup : Lookup}
    (form : Lookup.ResolvesTo target operator value predicate) (single : predicate = .leaf lookup) :
    lookup.field = target.path.text := by
  cases form with
  | presence value => cases value <;> cases single; rfl
  | everyElement => cases single
  | _ => cases single; rfl

theorem resolvedKey?_leaf {lookup resolved : Lookup}
    (run : lookup.resolve catalog = .ok (.leaf resolved)) :
    resolvedKey? catalog (.leaf lookup) = some lookup.field := by
  obtain ⟨target, found, form⟩ := Lookup.resolvesTo_of_resolve run
  have split := (Target.find_eq_ok_iff.mp found).1
  show (lookup.resolve catalog).toOption.map sortKey = _
  rw [run, ← FieldPath.text_of_split? split]
  exact congrArg some (field_of_resolvesTo form rfl)

/-- Lookups on different fields that stay lookups may come in any order. -/
theorem rearranged_leaves {lookups others : List Lookup} (perm : others.Perm lookups)
    (single : ∀ lookup ∈ lookups, ∃ resolved, lookup.resolve catalog = .ok (.leaf resolved))
    (distinct : lookups.Pairwise fun a b => a.field ≠ b.field) :
    Rearranged (resolvedKey? catalog) (lookups.map leaf) (others.map leaf) := by
  refine .of_distinct (perm.map leaf) (List.pairwise_map.mpr ?_)
  refine distinct.imp_of_mem fun {a b} inA inB apart same => apart ?_
  obtain ⟨left, runA⟩ := single a inA
  obtain ⟨right, runB⟩ := single b inB
  rw [resolvedKey?_leaf runA, resolvedKey?_leaf runB] at same
  exact Option.some.inj same

/-! ### Siblings in another order -/

/-- **The order in which siblings are given shows only among those with one sort key.** Take a group
anywhere in a predicate, and its children in another order. If those whose resolved forms have one
key come as before, the predicate compiles to the same restriction. If those with one key come as
before, the predicate has the same expression. So lookups on different fields that stay lookups
when they are resolved compile to the same in every order, and a group of such always compiles. -/
theorem sibling_order_canonical (catalog : Catalog) (context : Context) (connective : Connective) :
    (∀ (children others : List Predicate) (result : Option Restriction),
      (context.fill (.group connective children)).compile catalog = .ok result →
      Rearranged (resolvedKey? catalog) children others →
      (context.fill (.group connective others)).compile catalog = .ok result) ∧
    (∀ children others : List Predicate, Rearranged sortKey children others →
      (context.fill (.group connective others)).expression?
        = (context.fill (.group connective children)).expression?) ∧
    ∀ lookups others : List Lookup,
      (∀ lookup ∈ lookups, ∃ resolved, lookup.resolve catalog = .ok (.leaf resolved)) →
      (lookups.Pairwise fun a b => a.field ≠ b.field) → others.Perm lookups →
      (∃ result, (Predicate.group connective (lookups.map leaf)).compile catalog = .ok result) ∧
        (context.fill (.group connective (others.map leaf))).compile catalog
          = (context.fill (.group connective (lookups.map leaf))).compile catalog := by
  refine ⟨fun children others result compiled rearranged => ?_,
    fun children others rearranged => ?_, fun lookups others single distinct perm => ?_⟩
  · obtain ⟨whole, run, -⟩ := bind_eq_ok_iff.mp compiled
    obtain ⟨resolved, inside⟩ := context.exists_resolve run
    obtain ⟨parts, each, -⟩ := resolve_group_eq_ok_iff.mp inside
    have resolves : ∀ child ∈ children, ∃ part, child.resolve catalog = .ok part := by
      intro child member
      obtain ⟨part, -, here⟩ := exists_of_mapM_eq_ok (mapM_eq_ok_iff.mpr each) member
      exact ⟨part, here⟩
    have alike := resolveAlike_of_rearranged connective resolves rearranged
    exact (alike.fill context).compile_eq.trans compiled
  · exact ((Reads.of_rearranged rearranged connective).fill context).expression
  · have resolves : ∀ child ∈ lookups.map leaf, ∃ part, child.resolve catalog = .ok part := by
      intro child member
      obtain ⟨lookup, here, rfl⟩ := List.mem_map.mp member
      obtain ⟨resolved, run⟩ := single lookup here
      exact ⟨_, run⟩
    obtain ⟨parts, checked⟩ := exists_mapM_eq_ok resolves
    refine ⟨exists_compile_iff.mpr
      ⟨_, resolve_group_eq_ok_iff.mpr ⟨parts, mapM_eq_ok_iff.mp checked, rfl⟩⟩, ?_⟩
    have alike := resolveAlike_of_rearranged connective resolves
      (rearranged_leaves perm single distinct)
    exact (alike.fill context).compile_eq

/-- A lookup, one that is resolved to a group, and a group: the first two change places, and the two
that are groups in the end stay as they were. -/
theorem sibling_order_canonical_swapped :
    let subject : Predicate := .compare "subject" .startsWith (.text "Re")
    let marked : Predicate := .compare "categories" .contains (.list [.text "red", .text "blue"])
    let sizes : Predicate :=
      .group .any [.compare "size" .less (.int 1), .compare "size" .equal (.int 2)]
    let context : Context := .inside .any [.compare "is_read" .equal (.bool true)] .here []
    let small : Predicate := .compare "size" .less (.int 9)
    let given := context.fill (.group .notAll [subject, marked, sizes])
    let moved := context.fill (.group .notAll [marked, subject, sizes])
    (∃ restriction, given.compile Catalog.standard = .ok (some restriction) ∧
        moved.compile Catalog.standard = .ok (some restriction)) ∧
      moved.expression? = given.expression? ∧
      (context.fill (.group .all [small, subject])).compile Catalog.standard
        = (context.fill (.group .all [subject, small])).compile Catalog.standard := by
  intro subject marked sizes context small given moved
  obtain ⟨compiles, reads, -⟩ := sibling_order_canonical Catalog.standard context .notAll
  obtain ⟨-, -, anyOrder⟩ := sibling_order_canonical Catalog.standard context .all
  refine ⟨?_, reads _ _ (.swap (by decide) _), ?_⟩
  · have keys : resolvedKey? Catalog.standard subject ≠ resolvedKey? Catalog.standard marked := by
      decide +kernel
    obtain ⟨result, compiled⟩ : ∃ result, given.compile Catalog.standard = .ok result :=
      exists_ok_of_toBool (by decide +kernel)
    obtain ⟨restriction, rfl⟩ := Option.ne_none_iff_exists'.mp fun none =>
      absurd ((eq_none_iff_of_compile compiled).mp none) (by decide)
    exact ⟨restriction, compiled, compiles _ _ _ compiled (.swap keys _)⟩
  · let smaller : Lookup := ⟨"size", .less, .int 9⟩
    let reply : Lookup := ⟨"subject", .startsWith, .text "Re"⟩
    have single : ∀ lookup ∈ [reply, smaller],
        ∃ resolved, lookup.resolve Catalog.standard = .ok (.leaf resolved) := by
      intro lookup member
      have known : ∀ lookup ∈ [reply, smaller],
          (lookup.resolve Catalog.standard).toOption.any isLeaf = true := by decide +kernel
      have here := known lookup member
      cases run : lookup.resolve Catalog.standard with
      | error error =>
        rw [run] at here
        cases here
      | ok resolved =>
        rw [run] at here
        cases resolved with
        | leaf resolved => exact ⟨resolved, rfl⟩
        | group connective children => cases here
    exact (anyOrder [reply, smaller] [smaller, reply] single (by decide) (.swap _ _ _)).2

end Sift.Predicate
