/-
**A double negation leaves no trace.**

To negate a predicate twice gives the predicate itself, or the same behind a group of one child, or
the children of a negated group one level deeper (`Predicate.TwiceNegated`). Compiling sees none of
that, wherever the predicate stands in another one: not in the restriction, not in what is left out,
not in the error.

What carries the proof is that two predicates resolve alike (`Predicate.ResolveAlike`): both are
refused with the same error, or their resolved forms compile to the same and are ordered among
siblings by the same key. Then any group of the one compiles like that group of the other.

* `Predicate.resolveAlike_negate_negate` — a predicate and its double negation resolve alike.
* `Predicate.ResolveAlike.fill` — and so do the predicates that they are parts of.
* `Predicate.compile_fill_negate_negate` — they compile to the same.
-/

import Sift.Proofs.Predicate.Identity
import Sift.Proofs.Predicate.Resolved

namespace Sift.Predicate

/-! ### A place in a predicate -/

/-- A predicate with a place in it, at any depth, where another predicate can stand. -/
inductive Context where
  | here
  | inside (connective : Connective) (before : List Predicate) (context : Context)
      (after : List Predicate)

/-- The predicate that has a given one at the place. -/
def Context.fill (predicate : Predicate) : Context → Predicate
  | .here => predicate
  | .inside connective before context after =>
    .group connective (before ++ context.fill predicate :: after)

/-! ### Predicates that compile alike in every group -/

variable {catalog : Catalog}

/-- Whether two resolved predicates compile to the same, and have the same place among siblings. -/
structure Alike (catalog : Catalog) (a b : Predicate) : Prop where
  compiled : a.compileResolved catalog = b.compileResolved catalog
  sortKey : a.sortKey = b.sortKey

theorem Alike.refl (predicate : Predicate) : Alike catalog predicate predicate := ⟨rfl, rfl⟩

/-- A group that is not of one child, or negates, stands in front of its siblings. -/
theorem sortKey_group_of_pair (connective : Connective) (first second : Predicate)
    (rest : List Predicate) : (group connective (first :: second :: rest)).sortKey = "" := by
  cases connective <;> rfl

/-- Groups of predicates that are alike are alike. -/
theorem Alike.group {parts others : List Predicate}
    (each : List.Forall₂ (Alike catalog) parts others) (connective : Connective) :
    Alike catalog (.group connective parts) (.group connective others) := by
  refine ⟨?_, ?_⟩
  · show (siblings (compileAll catalog parts) >>= _) = (siblings (compileAll catalog others) >>= _)
    have same : compileAll catalog parts = compileAll catalog others := by
      rw [compileAll_eq_map, compileAll_eq_map]
      refine map_eq_map_of_forall₂ each fun part _ other alike => ?_
      rw [alike.sortKey, alike.compiled]
    rw [same]
  · cases each with
    | nil => rfl
    | cons first rest =>
      cases rest with
      | nil => cases connective <;> first | exact first.sortKey | rfl
      | cons => rw [sortKey_group_of_pair, sortKey_group_of_pair]

/-- A group of one child that does not negate is like its child. -/
theorem alike_all_singleton (predicate : Predicate) :
    Alike catalog predicate (.group .all [predicate]) := by
  have noOthers : ∀ other ∈ ([] ++ [] : List Predicate), other.lookups = [] :=
    fun other member => nomatch member
  exact ⟨(compileResolved_group_of_others_silent (by decide) noOthers).symm, rfl⟩

/-- To put the children of a negated group one level deeper changes nothing. -/
theorem alike_notAll_all (children : List Predicate) :
    Alike catalog (.group .notAll children) (.group .notAll [.group .all children]) := by
  refine ⟨?_, rfl⟩
  have gathered : siblings (compileAll catalog [.group .all children])
      = (compileResolved catalog (.group .all children)).map Option.toList :=
    siblings_of_others_silent (.refl _) fun other member => nomatch member
  show (siblings (compileAll catalog children) >>= _)
    = (siblings (compileAll catalog [.group .all children]) >>= _)
  rw [gathered]
  show _ = ((siblings (compileAll catalog children) >>= _).map Option.toList >>= _)
  cases siblings (compileAll catalog children) with
  | error error => rfl
  | ok parts => rcases parts with _ | ⟨first, _ | ⟨second, rest⟩⟩ <;> rfl

/-! ### Predicates that resolve alike -/

/-- Whether two predicates resolve alike: they are refused with the same error, or have resolved
forms that are alike. -/
def ResolveAlike (catalog : Catalog) (a b : Predicate) : Prop :=
  Agree (Alike catalog) (a.resolve catalog) (b.resolve catalog)

namespace ResolveAlike

theorem refl (predicate : Predicate) : ResolveAlike catalog predicate predicate :=
  Agree.refl Alike.refl _

/-- Groups of predicates that resolve alike resolve alike. -/
theorem group {children others : List Predicate}
    (each : List.Forall₂ (ResolveAlike catalog) children others) (connective : Connective) :
    ResolveAlike catalog (.group connective children) (.group connective others) := by
  show Agree _ (mapLeavesAll _ children >>= _) (mapLeavesAll _ others >>= _)
  rw [mapLeavesAll_eq_mapM, mapLeavesAll_eq_mapM]
  exact (Agree.mapM each).bind fun _ _ alike => .passed (.group alike connective)

/-- **Predicates that resolve alike do so as parts of another**, at whatever place. -/
theorem fill {a b : Predicate} (alike : ResolveAlike catalog a b) (context : Context) :
    ResolveAlike catalog (context.fill a) (context.fill b) := by
  induction context with
  | here => exact alike
  | inside connective before context after ih =>
    have unchanged : ∀ others : List Predicate,
        List.Forall₂ (ResolveAlike catalog) others others := fun others =>
      List.forall₂_same.mpr fun other _ => refl other
    exact group (List.rel_append (unchanged before) (.cons ih (unchanged after))) connective

/-- Predicates that resolve alike compile to the same. -/
theorem compile_eq {a b : Predicate} (alike : ResolveAlike catalog a b) :
    a.compile catalog = b.compile catalog :=
  Agree.eq (Agree.bind alike fun _ _ resolved => resolved.compiled ▸ Agree.refl (fun _ => rfl) _)

end ResolveAlike

/-! ### Double negations -/

/-- **The forms of a double negation.** -/
inductive TwiceNegated : Predicate → Predicate → Prop
  /-- A lookup whose operator was inverted and inverted back, or a group that says nothing. -/
  | same (predicate : Predicate) : TwiceNegated predicate predicate
  /-- A predicate whose negation was a group around it. -/
  | wrapped (predicate : Predicate) : TwiceNegated predicate (.group .all [predicate])
  /-- A group that negates. -/
  | deeper (children : List Predicate) :
      TwiceNegated (.group .notAll children) (.group .notAll [.group .all children])
  /-- A group that negates without children. -/
  | empty : TwiceNegated (.group .notAll []) (.group .all [])

theorem twiceNegated_negate_negate (predicate : Predicate) :
    TwiceNegated predicate predicate.negate.negate := by
  have form := negation_negate predicate
  cases predicate with
  | leaf lookup =>
    generalize (leaf lookup).negate = opposite at form ⊢
    cases form with
    | inverted inverts =>
      have back := Operator.inverse?_inverse? inverts
      simp only [negate, back]
      exact .same _
    | wrappedLeaf => exact .wrapped _
  | group connective children =>
    cases connective with
    | notAll =>
      cases children with
      | nil => exact .empty
      | cons first rest => exact .deeper _
    | all | any =>
      cases children with
      | nil => exact .same _
      | cons first rest => exact .wrapped _

/-- **A predicate and its double negation resolve alike.** -/
theorem resolveAlike_negate_negate (catalog : Catalog) (predicate : Predicate) :
    ResolveAlike catalog predicate predicate.negate.negate := by
  have form := twiceNegated_negate_negate predicate
  generalize predicate.negate.negate = twice at form ⊢
  cases form with
  | same => exact .refl _
  | wrapped =>
    show Agree _ _ ((predicate.resolve catalog >>= _) >>= _)
    cases predicate.resolve catalog with
    | error error => exact .failed error
    | ok resolved => exact .passed (alike_all_singleton resolved)
  | deeper children =>
    show Agree _ (mapLeavesAll _ children >>= _) (((mapLeavesAll _ children >>= _) >>= _) >>= _)
    cases mapLeavesAll (Lookup.resolve catalog) children with
    | error error => exact .failed error
    | ok parts => exact .passed (alike_notAll_all parts)
  | empty => exact .passed ⟨rfl, rfl⟩

/-- **A double negation leaves no trace in what is compiled.** Wherever a predicate stands in another
one, to negate it twice there changes neither the restriction, nor that there is none, nor the
error. -/
theorem compile_fill_negate_negate (catalog : Catalog) (context : Context)
    (predicate : Predicate) :
    (context.fill predicate.negate.negate).compile catalog
      = (context.fill predicate).compile catalog :=
  ((resolveAlike_negate_negate catalog predicate).fill context).compile_eq.symm

end Sift.Predicate
