/-
**A removal takes away exactly what matches.**

Over a store in memory the targets of a removal are what the store finds, one for one: in its order
if they come from a pass for identities, and in the order of the rows if they come from rows that
are kept. Where no two items share an identity, either way the same items go, and all else stays.

* `QuerySet.removalTargets_pass`, `QuerySet.removalTargets_fetched` — the targets.
* `QuerySet.Removes` — what a removal gives and leaves.
* `QuerySet.removes_of_targets` — a removal with these targets, in any order.
* `QuerySet.delete_exact` — it makes no difference whether the rows were fetched before.
-/

import Sift.Proofs.Predicate.Complement
import Sift.Proofs.QuerySet.InMemory
import Sift.Proofs.QuerySet.Validation

namespace Sift.QuerySet

variable {set : QuerySet} {session : Session Memory} {restriction : Option Restriction}

/-! ### Targets -/

/-- The identities of what a store in memory finds, each failure in its place. -/
def foundIds (memory : Memory) (restriction : Option Restriction) : List (Entry ItemId) :=
  (memory.found restriction).map (·.map Item.id)

/-- An item has the same identity however much of it is asked for. -/
theorem map_id_served (memory : Memory) (request : Request) :
    (memory.served request).map (·.map Item.id) = foundIds memory request.restriction := by
  rw [Memory.served_eq, List.map_map, foundIds]
  refine List.map_congr_left fun entry _ => ?_
  cases entry with
  | error error => rfl
  | ok item =>
    show Except.ok (Memory.shape request item).id = Except.ok item.id
    unfold Memory.shape
    split <;> rfl

/-- Rows that are whole items have the identities of the items that they are made of. -/
theorem rowIds_map_row {shaper : Shaper} (entities : shaper.shape = .entities)
    (entries : List (Entry Item)) :
    rowIds (entries.map (·.map shaper.row)) = entries.map (·.map Item.id) := by
  rw [rowIds, List.filterMap_map, ← List.filterMap_eq_map]
  refine List.filterMap_congr fun entry _ => ?_
  cases entry with
  | error error => rfl
  | ok item =>
    show (shaper.row item).item?.map _ = _
    rw [Shaper.row, entities]
    rfl

/-- **The targets of a pass for identities are what is found**, in the order of the store. -/
theorem removalTargets_pass (apart : set.cache = none ∨ set.shape ≠ .entities)
    (matching : set.predicate ≠ none) (asked : set.restriction = .ok restriction)
    (steady : session.store.pageFailure = none)
    (addressable : session.store.entries.length < UInt64.size) (size : 1 ≤ set.idPageSize) :
    ∃ after, set.removalTargets session = (.ok (foundIds session.store restriction), after) ∧
      after.store = session.store := by
  have walk : ((Cursor.start (set.idRequest restriction)).drain session).1
      = session.store.served (set.idRequest restriction) :=
    Memory.drain_whole steady addressable size rfl rfl
  rw [removalTargets_of_fetchIds apart, fetchIds_of_restriction matching asked, walk, map_id_served]
  exact ⟨_, rfl, Cursor.store_drain _ session⟩

/-- What becomes of entries does not matter where only their failures are read. -/
theorem map_outcome_map {α β : Type} (f : α → β) (entries : List (Entry α)) :
    (entries.map (·.map f)).map (·.map fun _ => ()) = entries.map (·.map fun _ => ()) := by
  rw [List.map_map]
  refine List.map_congr_left fun entry _ => ?_
  cases entry <;> rfl

/-- **The targets of rows that are whole items are what is found**, in the order of the rows. -/
theorem removalTargets_fetched {memory : Memory} (entities : set.shape = .entities)
    (cached : set.cache = some (set.sortedRows memory restriction)) :
    ∃ targets, set.removalTargets session = (.ok targets, session) ∧
      targets.Perm (foundIds memory restriction) ∧
      targets.map (·.map fun _ => ())
        = (set.sortedRows memory restriction).map (·.map fun _ => ()) ∧
      (set.ordering = [] → targets = foundIds memory restriction) := by
  let served := memory.served (set.request restriction 0 none set.pageSize)
  have ids : rowIds (set.sortedRows memory restriction)
      = (sortEntries set.sortKeys served).map (·.map Item.id) :=
    rowIds_map_row (set.plan_shape.trans entities) _
  have found : served.map (·.map Item.id) = foundIds memory restriction := map_id_served memory _
  refine ⟨_, removalTargets_of_cached cached entities, ?_, ?_, fun unordered => ?_⟩
  · rw [ids, ← found]
    exact (perm_sortEntries set.sortKeys served).map _
  · rw [ids, sortedRows, map_outcome_map, map_outcome_map]
  · have noKeys : set.sortKeys = [] := by rw [sortKeys, unordered, List.map_nil]
    rw [ids, noKeys, sortEntries_nil, found]

/-! ### Removal -/

/-- Where the store has removed every identity, each target that is one has been removed. -/
theorem assignOutcomes_removed (targets : List (Entry ItemId)) :
    assignOutcomes targets ((loadedIds targets).map fun _ => .ok ())
      = targets.map (·.map fun _ => ()) := by
  induction targets with
  | nil => rfl
  | cons target rest ih =>
    cases target with
    | error error => exact congrArg (.error error :: ·) ih
    | ok id => exact congrArg (.ok () :: ·) ih

/-- The outcomes of a removal in the order of the store. -/
def foundOutcomes (memory : Memory) (restriction : Option Restriction) : List (Entry Unit) :=
  (memory.found restriction).map (·.map fun _ => ())

/-- **Whether a removal takes away exactly what a restriction admits.** Each item that is found has
gone, with one outcome for it, and each failure stays, with itself as its outcome. What is left has
its order, and none of it matches. -/
structure Removes (set : QuerySet) (session : Session Memory) (restriction : Option Restriction)
    (outcomes : List (Entry Unit)) : Prop where
  answer : (set.delete session).1 = (.ok outcomes, set.all)
  each : outcomes.Perm (foundOutcomes session.store restriction)
  left : (set.delete session).2.store
    = { session.store with entries := session.store.entries.filter (Memory.stays restriction) }
  nothing : (set.all.count (set.delete session).2).1.1
    = .ok (session.store.entries.filter (!·.isOk)).length

/-- The names of what is found are those of the identities among its targets. -/
theorem map_loadedIds_foundIds (memory : Memory) (restriction : Option Restriction) :
    (loadedIds (foundIds memory restriction)).map ItemId.id
      = (memory.found restriction).filterMap Memory.name? := by
  rw [loadedIds, foundIds, List.filterMap_map, List.map_filterMap]
  refine List.filterMap_congr fun entry _ => ?_
  cases entry <;> rfl

/-- What is found among the entries that stay are the failures. -/
theorem length_found_left (memory : Memory) (restriction : Option Restriction) :
    (({ memory with entries := memory.entries.filter (Memory.stays restriction) } :
        Memory).found restriction).length
      = (memory.entries.filter (!·.isOk)).length := by
  show ((memory.entries.filter (Memory.stays restriction)).filter
    (Memory.admits restriction)).length = _
  rw [List.filter_filter]
  refine congrArg _ (List.filter_congr fun entry _ => ?_)
  cases entry with
  | error error => rfl
  | ok item => exact Bool.and_not_self _

/-- Over a store in memory a removal gives and leaves what `Memory.removeAll` does. -/
theorem delete_memory {targets : List (Entry ItemId)} {after : Session Memory}
    (known : set.removalTargets session = (.ok targets, after)) :
    let removed := Memory.removeAll (loadedIds targets) after.store.entries
    (set.delete session).1 = (.ok (assignOutcomes targets removed.1), set.all) ∧
      (set.delete session).2.store = { after.store with entries := removed.2 } := by
  intro removed
  rw [delete_of_targets known]
  split
  · rename_i none
    have nothing : removed = ([], after.store.entries) := by
      show Memory.removeAll (loadedIds targets) after.store.entries = _
      rw [none]
      rfl
    rw [nothing]
    exact ⟨rfl, rfl⟩
  · exact ⟨rfl, rfl⟩

/-- **To remove what is found, in any order, takes away exactly what matches**, where no two items
share an identity. -/
theorem removes_of_targets {targets : List (Entry ItemId)} {after : Session Memory}
    (known : set.removalTargets session = (.ok targets, after))
    (same : after.store = session.store)
    (found : targets.Perm (foundIds session.store restriction))
    (distinct : (session.store.ids.map ItemId.id).Nodup) (matching : set.predicate ≠ none)
    (asked : set.restriction = .ok restriction) (steady : session.store.pageFailure = none)
    (addressable : session.store.entries.length < UInt64.size) (size : 1 ≤ set.pageSize) :
    set.Removes session restriction (targets.map (·.map fun _ => ())) := by
  rw [Memory.map_ids] at distinct
  have named : ((loadedIds targets).map ItemId.id).Perm
      ((session.store.found restriction).filterMap Memory.name?) := by
    rw [← map_loadedIds_foundIds]
    exact (found.filterMap _).map _
  obtain ⟨answer, left⟩ := delete_memory known
  rw [same, Memory.removeAll_found distinct named] at answer left
  refine ⟨?_, ?_, left, ?_⟩
  · rw [answer, assignOutcomes_removed]
  · have outcomes := found.map (·.map fun _ => ())
    rwa [foundIds, map_outcome_map] at outcomes
  · have fewer : (session.store.entries.filter (Memory.stays restriction)).length < UInt64.size :=
      Nat.lt_of_le_of_lt (List.length_filter_le _ _) addressable
    -- What is left matches nothing, so that the rows of the next pass are the failures.
    rw [← length_found_left session.store restriction, ← left]
    refine count_memory rfl matching asked ?_ ?_ size
    · rw [left]
      exact steady
    · rw [left]
      exact fewer

section Removals

variable (distinct : (session.store.ids.map ItemId.id).Nodup) (matching : set.predicate ≠ none)
  (asked : set.restriction = .ok restriction) (steady : session.store.pageFailure = none)
  (addressable : session.store.entries.length < UInt64.size) (size : 1 ≤ set.pageSize)
  (idSize : 1 ≤ set.idPageSize)

include distinct matching asked steady addressable size idSize

/-- A removal with a pass for identities. -/
theorem removes_pass (apart : set.cache = none ∨ set.shape ≠ .entities) :
    set.Removes session restriction (foundOutcomes session.store restriction) := by
  obtain ⟨after, known, same⟩ :=
    removalTargets_pass apart matching asked steady addressable idSize
  have removes := removes_of_targets known same (.refl _) distinct matching asked steady addressable
    size
  rwa [foundIds, map_outcome_map] at removes

/-- A removal with all rows fetched before. -/
theorem removes_fetched (cached : set.cache = some (set.sortedRows session.store restriction)) :
    ∃ outcomes, set.Removes session restriction outcomes ∧
      (set.shape = .entities →
        outcomes = (set.sortedRows session.store restriction).map (·.map fun _ => ())) ∧
      (set.ordering = [] ∨ set.shape ≠ .entities →
        outcomes = foundOutcomes session.store restriction) := by
  by_cases entities : set.shape = .entities
  · obtain ⟨targets, known, found, outcomes, inOrder⟩ := removalTargets_fetched entities cached
    refine ⟨_, removes_of_targets known rfl found distinct matching asked steady addressable size,
      fun _ => outcomes, ?_⟩
    rintro (unordered | other)
    · rw [inOrder unordered, foundIds, map_outcome_map, foundOutcomes]
    · exact absurd entities other
  · exact ⟨_, removes_pass distinct matching asked steady addressable size idSize (.inr entities),
      fun whole => absurd whole entities, fun _ => rfl⟩

end Removals

/-- **A removal takes away exactly what matches, with the rows fetched before or not.** Over a store
in memory whose pages do not fail and where no two items share an identity, a query set that matches
anything has a restriction, which admits the items that the predicate is true of. To delete with
nothing fetched removes these, in the order of the store; to delete right after fetching removes the
same, in the order of the rows where they are whole items, and with the same outcomes where there is
no ordering. -/
theorem delete_exact {predicate : Predicate} (reached : Reachable Memory set)
    (known : set.predicate = some predicate) (distinct : (session.store.ids.map ItemId.id).Nodup)
    (steady : session.store.pageFailure = none)
    (addressable : session.store.entries.length < UInt64.size) (size : 1 ≤ set.pageSize)
    (idSize : 1 ≤ set.idPageSize) :
    ∃ restriction rows outcomes, set.restriction = .ok restriction ∧
      (∀ item, Memory.admits restriction (.ok item)
        = (predicate.truth (Lookup.holds set.catalog item)).getD true) ∧
      set.all.Removes session restriction (foundOutcomes session.store restriction) ∧
      (set.all.fetch session).1 = (.ok rows, { set with cache := some rows }) ∧
      (set.all.fetch session).2.store = session.store ∧
      (set.all.fetch session).1.2.Removes (set.all.fetch session).2 restriction outcomes ∧
      (set.shape = .entities → outcomes = rows.map (·.map fun _ => ())) ∧
      (set.ordering = [] → outcomes = foundOutcomes session.store restriction) := by
  obtain ⟨restriction, asked⟩ := reached.valid.exists_restriction
  have matching : set.predicate ≠ none := by rw [known]; exact Option.some_ne_none predicate
  have compiled := (restriction_of_some known).symm.trans asked
  have pass : set.all.Removes session restriction (foundOutcomes session.store restriction) :=
    removes_pass distinct matching asked steady addressable size idSize (.inl rfl)
  let rows := set.all.sortedRows session.store restriction
  have whole : (set.all.fetch session).1 = (.ok rows, { set with cache := some rows }) ∧
      (set.all.fetch session).2.store = session.store :=
    fetch_memory rfl matching asked steady addressable size
  obtain ⟨fetched, same⟩ := whole
  -- The store is as before behind the fetch, so that what is assumed of it holds there too.
  have again : ∃ outcomes,
      Removes { set with cache := some rows } (set.all.fetch session).2 restriction outcomes ∧
        (set.shape = .entities →
          outcomes = (set.sortedRows (set.all.fetch session).2.store restriction).map
            (·.map fun _ => ())) ∧
        (set.ordering = [] ∨ set.shape ≠ .entities →
          outcomes = foundOutcomes (set.all.fetch session).2.store restriction) :=
    removes_fetched (by rwa [same]) matching asked (by rwa [same]) (by rwa [same]) size idSize
      (by rw [same]; rfl)
  rw [same] at again
  obtain ⟨outcomes, removes, inRows, inStore⟩ := again
  rw [fetched]
  exact ⟨restriction, rows, outcomes, asked, Predicate.admits_of_compile compiled, pass, rfl, same,
    removes, inRows, fun unordered => inStore (.inl unordered)⟩

/-- Of two items with a failure between them the larger one goes. -/
theorem delete_exact_larger :
    let large : Item := ⟨⟨"a", none⟩, [("size", .int 9)]⟩
    let small : Item := ⟨⟨"b", none⟩, [("size", .int 1)]⟩
    let failure : Entry Item := .error (.itemNotFound "c")
    let session : Session Memory := ⟨⟨[.ok small, failure, .ok large], none⟩, []⟩
    ∃ set, (ofFolders Catalog.standard []).filter (.compare "size" .greater (.int 5)) = .ok set ∧
      (set.delete session).1 = (.ok [.error (.itemNotFound "c"), .ok ()], set) ∧
      (set.delete session).2.store.entries = [.ok small, failure] := by
  intro large small failure session
  obtain ⟨resolved, run⟩ : ∃ resolved,
      (Predicate.compare "size" .greater (.int 5)).resolve Catalog.standard = .ok resolved :=
    exists_ok_of_toBool (by decide +kernel)
  let set : QuerySet :=
    { ofFolders Catalog.standard [] with predicate := some (Predicate.empty.both resolved) }
  have made : (ofFolders Catalog.standard []).filter (.compare "size" .greater (.int 5)) = .ok set :=
    bind_eq_ok_iff.mpr ⟨resolved, run, rfl⟩
  have reached : Reachable Memory set := .change (.filter _) (.folders Catalog.standard []) made
  have distinct : (session.store.ids.map ItemId.id).Nodup := by decide
  obtain ⟨restriction, rows, outcomes, asked, admitted, removes, -⟩ :=
    delete_exact reached rfl distinct rfl (by decide) (by decide : 1 ≤ 100) (by decide : 1 ≤ 1000)
  have truth : ∀ item, Memory.admits restriction (.ok item)
      = ((Predicate.compare "size" .greater (.int 5)).truth
          (Lookup.holds Catalog.standard item)).getD true := by
    intro item
    have fixed := Predicate.resolve_of_resolve run
    rw [admitted, Predicate.truth_both_getD, ← Predicate.truth_resolve run,
      Predicate.truth_resolve fixed]
    rfl
  have larger : Memory.admits restriction (.ok large) = true := by
    rw [truth]
    decide +kernel
  have smaller : Memory.admits restriction (.ok small) = false := by
    rw [truth]
    decide +kernel
  have found : session.store.found restriction = [failure, .ok large] := by
    show [.ok small, failure, .ok large].filter (Memory.admits restriction) = _
    rw [List.filter_cons, List.filter_cons, List.filter_cons, smaller, larger]
    rfl
  have left : session.store.entries.filter (Memory.stays restriction) = [.ok small, failure] := by
    have remains : Memory.stays restriction (.ok small) = true := congrArg (! ·) smaller
    have goes : Memory.stays restriction (.ok large) = false := congrArg (! ·) larger
    show [.ok small, failure, .ok large].filter (Memory.stays restriction) = _
    rw [List.filter_cons, List.filter_cons, List.filter_cons, remains, goes]
    rfl
  refine ⟨set, made, ?_, (congrArg Memory.entries removes.left).trans left⟩
  refine removes.answer.trans ?_
  rw [foundOutcomes, found]
  rfl

end Sift.QuerySet
