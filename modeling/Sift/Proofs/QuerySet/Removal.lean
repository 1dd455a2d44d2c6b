/-
**A removal reports one outcome for each target, in its place.**

What a removal is about is known from the rows that are kept or found by a pass (`Targets`). The
targets that are identities go to the store in one call, and whatever the store answers, however
many outcomes, they come back to the targets one by one: a failure keeps its place, and the
identities take the outcomes in turn.

* `QuerySet.getElem?_assignOutcomes` — the outcome of each target.
* `QuerySet.delete_aligned` — what a removal gives, asks of the store and leaves.
-/

import Sift.Proofs.QuerySet.Validation
import Sift.Proofs.Store.Paging

namespace Sift.QuerySet

variable {σ : Type}

/-! ### Outcomes -/

theorem loadedIds_eq_filterMap (targets : List (Entry ItemId)) :
    loadedIds targets = targets.filterMap Except.toOption := by
  refine List.filterMap_congr fun target _ => ?_
  cases target <;> rfl

theorem length_assignOutcomes (targets : List (Entry ItemId)) (answered : List (Entry Unit)) :
    (assignOutcomes targets answered).length = targets.length := by
  fun_induction assignOutcomes targets answered with
  | case1 => rfl
  | case2 error targets answered ih => exact congrArg Nat.succ ih
  | case3 id targets ih => exact congrArg Nat.succ ih
  | case4 id targets outcome answered ih => exact congrArg Nat.succ ih

/-- The outcome of a target, where so many identities stand in front of it. -/
def outcomeAfter (answered : List (Entry Unit)) (before : Nat) : Entry ItemId → Entry Unit
  | .error error => .error error
  | .ok id => answered[before]?.getD (.error (.itemNotFound id.id))

/-- **Each target gets its own failure, or the outcome in its turn.** -/
theorem getElem?_assignOutcomes (targets : List (Entry ItemId)) (answered : List (Entry Unit))
    (i : Nat) :
    (assignOutcomes targets answered)[i]?
      = targets[i]?.map (outcomeAfter answered (loadedIds (targets.take i)).length) := by
  -- Along the recursion, an identity in front takes the first of the outcomes that are left.
  fun_induction assignOutcomes targets answered generalizing i with
  | case1 => rfl
  | case2 error targets answered ih =>
    cases i with
    | zero => rfl
    | succ i => exact ih i
  | case3 id targets ih =>
    cases i with
    | zero => rfl
    | succ i =>
      refine (ih i).trans (congrArg (Option.map · targets[i]?) (funext fun target => ?_))
      cases target <;> rfl
  | case4 id targets outcome answered ih =>
    cases i with
    | zero => rfl
    | succ i =>
      refine (ih i).trans (congrArg (Option.map · targets[i]?) (funext fun target => ?_))
      cases target <;> rfl

/-! ### Removal -/

/-- **A removal reports one outcome for each target, in its place**, whatever the store answers. The
identities among the targets go to the store in one call, or in none if there are none. A failure
keeps its place; an identity gets the outcome in its turn, which is the number of identities in front
of it, or the error of an item that is not there where the store gives too few, and what the store
gives beyond is ignored. Afterwards no rows are kept. -/
theorem delete_aligned [Store σ] {set : QuerySet} (reached : Reachable σ set)
    (session : Session σ) :
    ∃ targets after outcomes, set.Targets session targets after ∧
      let ids := targets.filterMap Except.toOption
      let answered := if ids = [] then [] else (Store.remove ids after.store).1
      (set.delete session).1 = (.ok outcomes, set.all) ∧
      (set.delete session).2.removals = session.removals ++ (if ids = [] then [] else [ids]) ∧
      (set.delete session).2.store
        = (if ids = [] then after.store else (Store.remove ids after.store).2) ∧
      outcomes.length = targets.length ∧
      (∀ (i : Nat) error, targets[i]? = some (.error error) →
        outcomes[i]? = some (.error error)) ∧
      ∀ (i : Nat) id, targets[i]? = some (.ok id) →
        outcomes[i]? = some (answered[((targets.take i).filterMap Except.toOption).length]?.getD
          (.error (.itemNotFound id.id))) := by
  obtain ⟨targets, after, about, known⟩ := reached.valid.exists_targets session
  simp only [← loadedIds_eq_filterMap]
  let answered :=
    if loadedIds targets = [] then [] else (Store.remove (loadedIds targets) after.store).1
  have failures : ∀ (i : Nat) error, targets[i]? = some (.error error) →
      (assignOutcomes targets answered)[i]? = some (.error error) := by
    intro i error failed
    rw [getElem?_assignOutcomes, failed]
    rfl
  have turns : ∀ (i : Nat) id, targets[i]? = some (.ok id) →
      (assignOutcomes targets answered)[i]?
        = some (answered[(loadedIds (targets.take i)).length]?.getD
            (.error (.itemNotFound id.id))) := by
    intro i id given
    rw [getElem?_assignOutcomes, given]
    rfl
  refine ⟨targets, after, assignOutcomes targets answered, about, ?_, ?_, ?_,
    length_assignOutcomes targets answered, failures, turns⟩
  all_goals rw [delete_of_targets known]
  · split
    · rename_i none
      simp only [answered, none, if_true]
    · rename_i some
      simp only [answered, some, if_false]
      rfl
  · rw [← about.removals_eq]
    split
    · exact (List.append_nil _).symm
    · exact List.filterMap_append
  · split <;> rfl

/-- A store that answers removals with nothing. -/
theorem delete_aligned_unanswered :
    let set := ofFolders Catalog.standard []
    let entries : List (Entry Item) := [.ok ⟨⟨"a", none⟩, []⟩, .error (.itemNotFound "b")]
    (set.delete ⟨Unpaged.mk entries, []⟩).1
        = (.ok [.error (.itemNotFound "a"), .error (.itemNotFound "b")], set) ∧
      (set.delete ⟨Unpaged.mk entries, []⟩).2.removals = [[⟨"a", none⟩]] := by
  intro set entries
  obtain ⟨targets, after, outcomes, about, answer, removals, -, length, failures, turns⟩ :=
    delete_aligned (.folders Catalog.standard []) ⟨Unpaged.mk entries, []⟩
  obtain rfl : targets = [.ok ⟨"a", none⟩, .error (.itemNotFound "b")] := by
    cases about with
    | kept cached => cases cached
    | nothing _ unmatched => cases unmatched
    | found _ _ asked =>
      cases asked
      rw [Cursor.drain_start (Unpaged.serves _ _)]
      rfl
  obtain ⟨first, second, rfl⟩ := List.length_eq_two.mp length
  cases turns 0 _ rfl
  cases failures 1 _ rfl
  exact ⟨answer, removals⟩

end Sift.QuerySet
