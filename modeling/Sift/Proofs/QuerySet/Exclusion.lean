/-
**To exclude a predicate is to filter by its negation.**

A query set that excludes a predicate resolves it and negates what comes of that; one that filters
by the negation resolves a predicate that is negated already. The two resolved trees may differ:
`oneOf` with a single literal becomes an inequality on one way and a negated equality on the other,
and that a field has no value becomes one group or two. What they are true of does not differ, and
neither does whether there is a tree at all.

* `Predicate.exists_resolve_negate_iff` — a predicate can be resolved exactly if its negation can.
* `Predicate.truth_negate_resolve` — negating and resolving may change places.
* `QuerySet.agree_restriction_both` — query sets that are narrowed by predicates of one truth ask
  for the same items.
* `QuerySet.exclude_interchangeable` — the two calls fail together, or ask for the same items.
-/

import Sift.Proofs.Predicate.Complement
import Sift.Proofs.Predicate.DoubleNegation
import Sift.Proofs.QuerySet.Validation

namespace Sift

/-- Whether two restrictions ask for the same items: neither is there, or both admit the same. -/
inductive Restriction.SameItems : Option Restriction → Option Restriction → Prop
  | unrestricted : SameItems none none
  | restricted {first second : Restriction}
      (same : ∀ item, first.satisfiedBy item = second.satisfiedBy item) :
      SameItems (some first) (some second)

/-- Restrictions that come to the same truth for every item ask for the same items. -/
theorem Restriction.SameItems.of_truth {first second : Option Restriction}
    (same : ∀ item, first.map (fun restriction => restriction.satisfiedBy item)
      = second.map fun restriction => restriction.satisfiedBy item) : SameItems first second := by
  have somewhere := same (.ofId ⟨"", none⟩)
  rcases first with _ | first <;> rcases second with _ | second
  · exact .unrestricted
  · cases somewhere
  · cases somewhere
  · exact .restricted fun item => Option.some.inj (same item)

namespace Predicate

variable {catalog : Catalog} {predicate resolved : Predicate}

/-- **A predicate can be resolved exactly if its negation can.** -/
theorem exists_resolve_negate_iff :
    (∃ negated, predicate.negate.resolve catalog = .ok negated) ↔
      ∃ resolved, predicate.resolve catalog = .ok resolved := by
  constructor
  · rintro ⟨negated, run⟩
    obtain ⟨twice, again, -⟩ := resolve_negate run
    have alike : Agree (Alike catalog) (predicate.resolve catalog)
        (predicate.negate.negate.resolve catalog) := resolveAlike_negate_negate catalog predicate
    rw [again] at alike
    generalize predicate.resolve catalog = check at alike ⊢
    cases alike with
    | passed => exact ⟨_, rfl⟩
  · rintro ⟨resolved, run⟩
    obtain ⟨negated, again, -⟩ := resolve_negate run
    exact ⟨negated, again⟩

/-- **Negating and resolving may change places**: the negation of a resolved form has the truth of
the negation, of every item. -/
theorem truth_negate_resolve (run : predicate.resolve catalog = .ok resolved) (item : Item) :
    resolved.negate.truth (Lookup.holds catalog item)
      = predicate.negate.truth (Lookup.holds catalog item) := by
  by_cases silent : predicate.lookups = []
  · cases run.symm.trans (resolve_of_silent silent)
    rfl
  -- Both negations come out opposite to one truth, or not, as the item decides the predicate.
  · obtain ⟨truth, said⟩ := exists_truth silent (Lookup.holds catalog item)
    have saidResolved := (truth_holds_resolve run item).trans said
    obtain ⟨given, known, opposite⟩ := exists_truth_negate run said
    obtain ⟨made, knownResolved, oppositeResolved⟩ :=
      exists_truth_negate (resolve_of_resolve run) saidResolved
    rw [decided_resolve_iff run] at oppositeResolved
    have alike : made = (!truth) ↔ given = (!truth) := oppositeResolved.trans opposite.symm
    rw [knownResolved, known]
    cases made <;> cases given <;> cases truth <;> simp at alike ⊢

/-- What cannot be resolved is refused with the same error in front of any other predicate. -/
theorem compile_both_of_refused {base : Predicate} {error : QueryError}
    (refused : base.resolve catalog = .error error) (other : Predicate) :
    (base.both other).compile catalog = .error error := by
  have kept : base.isEmpty = false := by
    cases empty : base.isEmpty with
    | false => rfl
    | true =>
      rw [resolve_of_silent (lookups_of_isEmpty empty)] at refused
      cases refused
  have first : (base.both other).resolve catalog = .error error := by
    show (mapLeavesAll _ ([base, other].filter _) >>= _) = _
    rw [List.filter_cons_of_pos (by rw [kept]; rfl), mapLeavesAll]
    show (((base.resolve catalog) >>= _) >>= _) = _
    rw [refused]
    rfl
  show ((base.both other).resolve catalog >>= _) = _
  rw [first]
  rfl

end Predicate

namespace QuerySet

/-- **Query sets that are narrowed by predicates of one truth ask for the same items**, or are
refused with the same error, which is that of the query set itself. -/
theorem agree_restriction_both (set : QuerySet) {first second : Predicate}
    (firstResolved : ∃ resolved, first.resolve set.catalog = .ok resolved)
    (secondResolved : ∃ resolved, second.resolve set.catalog = .ok resolved)
    (same : ∀ item, first.truth (Lookup.holds set.catalog item)
      = second.truth (Lookup.holds set.catalog item)) :
    Agree Restriction.SameItems
      (restriction { set.all with predicate := set.predicate.map (·.both first) })
      (restriction { set.all with predicate := set.predicate.map (·.both second) }) := by
  cases known : set.predicate with
  | none => exact .passed .unrestricted
  | some base =>
    show Agree _ ((base.both first).compile set.catalog) ((base.both second).compile set.catalog)
    cases run : base.resolve set.catalog with
    | error error =>
      rw [Predicate.compile_both_of_refused run, Predicate.compile_both_of_refused run]
      exact .failed error
    | ok resolved =>
      obtain ⟨left, compiledFirst⟩ := Predicate.exists_compile_both ⟨resolved, run⟩ firstResolved
      obtain ⟨right, compiledSecond⟩ := Predicate.exists_compile_both ⟨resolved, run⟩ secondResolved
      rw [compiledFirst, compiledSecond]
      refine .passed (.of_truth fun item => ?_)
      rw [Predicate.satisfiedBy_compile compiledFirst, Predicate.satisfiedBy_compile compiledSecond,
        Predicate.both, Predicate.both, Predicate.allOf, Predicate.allOf, Predicate.truth_groupOf,
        Predicate.truth_groupOf]
      simp only [List.filterMap_cons, same item]

/-- **To exclude a predicate and to filter by its negation come to the same.** Both calls are
refused, or both make query sets that differ in nothing but their predicates. These then have the
same error, if the query set had one before, and otherwise no restrictions, or restrictions that
admit the same items. Query sets that calls lead to never have such an error. -/
theorem exclude_interchangeable (set : QuerySet) (predicate : Predicate) :
    (∃ refused other, set.exclude predicate = .error refused ∧
      set.filter predicate.negate = .error other) ∨
    ∃ left kept, set.exclude predicate = .ok left ∧ set.filter predicate.negate = .ok kept ∧
      { left with predicate := kept.predicate } = kept ∧
      Agree Restriction.SameItems left.restriction kept.restriction ∧
      ∀ (σ : Type) [Store σ], Reachable σ set → ∃ asked, left.restriction = .ok asked := by
  cases run : predicate.resolve set.catalog with
  | error refused =>
    have unresolved : ¬∃ negated, predicate.negate.resolve set.catalog = .ok negated := by
      rw [Predicate.exists_resolve_negate_iff, run]
      rintro ⟨resolved, passed⟩
      cases passed
    cases runNegated : predicate.negate.resolve set.catalog with
    | ok negated => exact absurd ⟨negated, runNegated⟩ unresolved
    | error other =>
      refine .inl ⟨refused, other, ?_, ?_⟩
      · rw [exclude, run]
        rfl
      · rw [filter, runNegated]
        rfl
  | ok resolved =>
    obtain ⟨negated, runNegated⟩ := Predicate.exists_resolve_negate_iff.mpr ⟨resolved, run⟩
    have excluded : set.exclude predicate
        = .ok { set.all with predicate := set.predicate.map (·.both resolved.negate) } :=
      bind_eq_ok_iff.mpr ⟨resolved, run, rfl⟩
    have fixed := Predicate.resolve_negate_of_resolved (Predicate.resolve_of_resolve run)
    refine .inr ⟨_, _, excluded, bind_eq_ok_iff.mpr ⟨negated, runNegated, rfl⟩, rfl, ?_,
      fun σ _ reached => ?_⟩
    · refine agree_restriction_both set ⟨_, fixed⟩ ⟨_, Predicate.resolve_of_resolve runNegated⟩
        fun item => ?_
      rw [Predicate.truth_negate_resolve run, Predicate.truth_holds_resolve runNegated]
    · exact (reached.change (.exclude predicate) excluded).valid.exists_restriction

end QuerySet

end Sift
