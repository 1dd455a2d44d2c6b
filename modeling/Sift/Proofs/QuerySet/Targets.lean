/-
**What a removal is about.**

A removal takes its targets from the rows that are kept, if they are whole items, and otherwise from
a pass of its own over all that matches. Either way a target is an identity or a failure.

* `QuerySet.Targets` — the targets, and the session once they are known.
* `QuerySet.Valid.exists_targets` — a removal from a valid set finds its targets.
-/

import Sift.Proofs.QuerySet.Calls
import Sift.Proofs.QuerySet.Steps
import Sift.Proofs.Store.Removal

namespace Sift.QuerySet

variable {σ : Type}

/-- The identity of a row that is a whole item, or the failure in its place. -/
inductive TargetOf : Entry Row → Entry ItemId → Prop
  | item (item : Item) : TargetOf (.ok (.item item)) (.ok item.id)
  | failure (error : RemoteError) : TargetOf (.error error) (.error error)

/-- **What a removal is about**, and the session once that is known: the rows that are kept, if they
are whole items, and otherwise what a pass finds that fetches nothing but identities. -/
inductive Targets [Store σ] (set : QuerySet) (session : Session σ) :
    List (Entry ItemId) → Session σ → Prop
  | kept {rows : List (Entry Row)} {targets : List (Entry ItemId)} (cached : set.cache = some rows)
      (entities : set.shape = .entities) (each : List.Forall₂ TargetOf rows targets) :
      Targets set session targets session
  | nothing (apart : set.cache = none ∨ set.shape ≠ .entities) (unmatched : set.predicate = none) :
      Targets set session [] session
  | found {restriction : Option Restriction} (apart : set.cache = none ∨ set.shape ≠ .entities)
      (matched : set.predicate ≠ none) (asked : set.restriction = .ok restriction) :
      Targets set session
        (((Cursor.start (set.idRequest restriction)).drain session).1.map (·.map Item.id))
        ((Cursor.start (set.idRequest restriction)).drain session).2

/-- Rows that are whole items have one identity or failure each. -/
theorem forall₂_rowIds {rows : List (Entry Row)} (whole : WholeItems rows) :
    List.Forall₂ TargetOf rows (rowIds rows) := by
  induction rows with
  | nil => exact .nil
  | cons entry rest ih =>
    have behind := ih fun row member => whole row (.tail _ member)
    cases entry with
    | error error => exact .cons (.failure error) behind
    | ok row =>
      obtain ⟨item, rfl⟩ := whole row List.mem_cons_self
      exact .cons (.item item) behind

/-- **What a removal from a valid set is about.** -/
theorem Valid.exists_targets [Store σ] {set : QuerySet} (valid : set.Valid) (session : Session σ) :
    ∃ targets after, set.Targets session targets after ∧
      set.removalTargets session = (.ok targets, after) := by
  by_cases apart : set.cache = none ∨ set.shape ≠ .entities
  · rw [removalTargets_of_fetchIds apart]
    by_cases unmatched : set.predicate = none
    · exact ⟨_, _, .nothing apart unmatched, fetchIds_of_none unmatched⟩
    · obtain ⟨restriction, asked⟩ := valid.exists_restriction
      exact ⟨_, _, .found apart unmatched asked, fetchIds_of_restriction unmatched asked⟩
  · obtain ⟨present, entities⟩ := not_or.mp apart
    obtain ⟨rows, cached⟩ := Option.ne_none_iff_exists'.mp present
    have shape := not_not.mp entities
    exact ⟨_, _, .kept cached shape (forall₂_rowIds (valid.items shape rows cached)),
      removalTargets_of_cached cached shape⟩

/-- To know the targets nothing is removed. -/
theorem Targets.removals_eq [Store σ] {set : QuerySet} {session after : Session σ}
    {targets : List (Entry ItemId)} (known : set.Targets session targets after) :
    after.removals = session.removals := by
  cases known with
  | kept | nothing => rfl
  | found => exact Cursor.removals_drain _ session

end Sift.QuerySet
