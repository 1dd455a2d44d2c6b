/-
**To resolve a predicate again changes nothing.**

A query set resolves a predicate when it is narrowed by it, and all that it has gathered is resolved
once more when it is compiled. That is the same as to compile the predicate as it was given: what
was resolved is in resolved form, and it compiles like the predicate itself, alone and as a part of
others.

* `Predicate.isEmpty_of_resolve` — resolving keeps apart what is an empty group and what is not.
* `Predicate.ResolveAlike.of_resolve`, `Predicate.ResolveAlike.groupOf` — a predicate and its
  resolved form resolve alike, and so do combinations of such.
* `QuerySet.resolve_idempotent` — a predicate, its resolved form, and a query set narrowed by it.
-/

import Sift.Catalog.Standard
import Sift.Proofs.Predicate.DoubleNegation
import Sift.Proofs.QuerySet.Steps

namespace Sift

namespace Predicate

variable {catalog : Catalog} {predicate resolved : Predicate}

/-! ### Empty groups -/

/-- A lookup is not resolved to an empty group. -/
theorem isEmpty_of_resolvesTo {target : Target} {operator : Operator} {value : Value}
    (form : Lookup.ResolvesTo target operator value resolved) : resolved.isEmpty = false := by
  cases form with
  | presence value => cases value <;> rfl
  | @everyElement values literals several given coerced =>
    rw [allOf_compare]
    cases literals with
    | nil => exact absurd (List.forall₂_nil_right_iff.mp (mapM_eq_ok_iff.mp coerced)) given
    | cons literal rest => rfl
  | _ => rfl

/-- **Resolving makes no empty groups**, and leaves those that are there. -/
theorem isEmpty_of_resolve (run : predicate.resolve catalog = .ok resolved) :
    resolved.isEmpty = predicate.isEmpty := by
  cases predicate with
  | leaf lookup =>
    obtain ⟨target, -, form⟩ := Lookup.resolvesTo_of_resolve run
    exact isEmpty_of_resolvesTo form
  | group connective children =>
    obtain ⟨parts, each, rfl⟩ := resolve_group_eq_ok_iff.mp run
    cases each <;> rfl

/-! ### Predicates and their resolved forms -/

namespace ResolveAlike

/-- A predicate and its resolved form resolve alike. -/
theorem of_resolve (run : predicate.resolve catalog = .ok resolved) :
    ResolveAlike catalog resolved predicate := by
  unfold ResolveAlike
  rw [run, resolve_of_resolve run]
  exact .passed (.refl resolved)

/-- Combinations of predicates that resolve alike do so too, if empty groups stand for empty ones:
the same children are left out of both. -/
theorem groupOf {children others : List Predicate}
    (each : List.Forall₂ (fun child other => ResolveAlike catalog child other ∧
      child.isEmpty = other.isEmpty) children others) (connective : Connective) :
    ResolveAlike catalog (.groupOf connective children) (.groupOf connective others) := by
  refine .group ?_ connective
  induction each with
  | nil => exact .nil
  | @cons child other _ _ here _ ih =>
    rw [List.filter_cons, List.filter_cons, here.2]
    split
    · exact .cons here.1 ih
    · exact ih

end ResolveAlike

end Predicate

namespace QuerySet

/-- **To resolve a predicate again changes nothing.** What was resolved is resolved to itself, and it
compiles to the same as the predicate did, alone and wherever it stands in another one. So a query
set that is narrowed by a predicate asks for the same as if its own predicate and the given one were
combined first and resolved once. -/
theorem resolve_idempotent {catalog : Catalog} {predicate resolved : Predicate}
    (run : predicate.resolve catalog = .ok resolved) :
    resolved.resolve catalog = .ok resolved ∧
      resolved.compile catalog = predicate.compile catalog ∧
      (∀ context : Predicate.Context,
        (context.fill resolved).compile catalog = (context.fill predicate).compile catalog) ∧
      ∀ (set : QuerySet) (base : Predicate), set.catalog = catalog → set.predicate = some base →
        ∃ narrowed, set.filter predicate = .ok narrowed ∧
          narrowed.restriction = (base.both predicate).compile catalog := by
  have alike := Predicate.ResolveAlike.of_resolve run
  refine ⟨Predicate.resolve_of_resolve run, alike.compile_eq,
    fun context => (alike.fill context).compile_eq, ?_⟩
  rintro set base rfl known
  refine ⟨{ set.all with predicate := set.predicate.map (·.both resolved) },
    bind_eq_ok_iff.mpr ⟨resolved, run, rfl⟩, ?_⟩
  have combined : Predicate.ResolveAlike set.catalog (base.both resolved) (base.both predicate) := by
    apply Predicate.ResolveAlike.groupOf
    exact .cons ⟨.refl base, rfl⟩ (.cons ⟨alike, Predicate.isEmpty_of_resolve run⟩ .nil)
  rw [← combined.compile_eq]
  refine restriction_of_some ?_
  show set.predicate.map (·.both resolved) = _
  rw [known]
  rfl

/-- A predicate of which every lookup is resolved to another form, under a negated group. -/
def rewrittenSample : Predicate :=
  .group .notAll [
    .compare "categories" .contains (.list [.text "red", .text "blue"]),
    .compare "size" .oneOf (.int 5),
    .group .any [.compare "subject" .present (.bool false), .empty]]

theorem resolve_idempotent_rewrittenSample :
    ∃ resolved, rewrittenSample.resolve Catalog.standard = .ok resolved ∧
      resolved.lookups.length = 4 ∧ resolved.resolve Catalog.standard = .ok resolved ∧
      ∃ narrowed, (ofFolders Catalog.standard []).filter rewrittenSample = .ok narrowed ∧
        narrowed.restriction = (Predicate.empty.both rewrittenSample).compile Catalog.standard := by
  have known : ((rewrittenSample.resolve Catalog.standard).toOption.map
      fun resolved => resolved.lookups.length) = some 4 := by decide +kernel
  obtain ⟨resolved, found, length⟩ := Option.map_eq_some_iff.mp known
  have run := eq_ok_of_toOption found
  obtain ⟨again, -, -, narrows⟩ := resolve_idempotent run
  exact ⟨resolved, run, length, again, narrows (ofFolders Catalog.standard []) .empty rfl rfl⟩

end QuerySet

end Sift
