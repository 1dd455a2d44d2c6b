/-
**What removing leaves of a store.**

A walk only searches, so that whatever no search changes is as before behind it. A store in memory
removes one identity after another, each time the first item that has it. If no two items share an
identity, then all that was asked for is gone in the end, whatever the order, and all else stays as
it was.

* `Cursor.drain_preserves` — what a search preserves, a walk does.
* `Memory.removeFirst?_eq` — one removal, as a filter.
* `Memory.removeAll_eq` — all of them, as a filter.
* `Memory.removeAll_found` — to remove all that is found leaves what is not found.
-/

import Mathlib.Data.List.Nodup
import Mathlib.Data.List.Pairwise
import Sift.Store.Cursor
import Sift.Store.Memory

namespace Sift

/-! ### Walks -/

namespace Cursor

section Preservation

variable {σ : Type} [Store σ] (kept : Session σ → Prop)
  (preserved : ∀ request session, kept session → kept (Session.search request session).2)

include preserved

/-- The next entry needs at most one search. -/
theorem next_preserves (cursor : Cursor) {session : Session σ} (holds : kept session) :
    kept (cursor.next session).2 := by
  show kept (cursor.refill session).2
  unfold refill
  split
  · unfold fetchPage
    split
    · exact holds
    · exact preserved _ _ holds
  · exact holds

/-- **What a search preserves, a walk does.** -/
theorem drain_preserves (cursor : Cursor) {session : Session σ} (holds : kept session) :
    kept (cursor.drain session).2 := by
  fun_induction cursor.drain session with
  | case1 cursor session after session' step =>
    have next := next_preserves kept preserved cursor holds
    rw [step] at next
    exact next
  | case2 cursor session entry after session' step rest session'' drained ih =>
    have next := next_preserves kept preserved cursor holds
    rw [step] at next
    have rest := ih next
    rw [drained] at rest
    exact rest

end Preservation

/-- A walk removes nothing. -/
theorem removals_drain {σ : Type} [Store σ] (cursor : Cursor) (session : Session σ) :
    (cursor.drain session).2.removals = session.removals := by
  refine drain_preserves (fun after => after.removals = session.removals) ?_ cursor rfl
  intro request after same
  show (after.calls ++ [Call.search request]).filterMap Call.removal? = _
  rw [List.filterMap_append, ← same]
  exact List.append_nil _

/-- A walk does not change a store in memory. -/
theorem store_drain (cursor : Cursor) (session : Session Memory) :
    (cursor.drain session).2.store = session.store :=
  drain_preserves (fun after => after.store = session.store) (fun _ _ same => same) cursor rfl

end Cursor

/-! ### Stores in memory -/

namespace Memory

/-- The text that identifies an entry, unless it is a failure. -/
def name? : Entry Item → Option String
  | .ok item => some item.id.id
  | .error _ => none

theorem map_ids (memory : Memory) : memory.ids.map ItemId.id = memory.entries.filterMap name? := by
  rw [ids, List.map_filterMap]
  refine List.filterMap_congr fun entry _ => ?_
  cases entry <;> rfl

/-- Entries with the same name are the same, where no name stands twice. -/
theorem eq_of_name? {entries : List (Entry Item)} (distinct : (entries.filterMap name?).Nodup)
    {a b : Entry Item} (here : a ∈ entries) (there : b ∈ entries) {name : String}
    (named : name? a = some name) (same : name? b = some name) : a = b := by
  by_contra apart
  have differ := List.pairwise_filterMap.mp distinct
  have symmetric : Std.Symm fun a b : Entry Item =>
      ∀ name, name? a = some name → ∀ other, name? b = some other → name ≠ other :=
    ⟨fun a b differ name given other known => (differ other known name given).symm⟩
  exact differ.forall here there apart name named name same rfl

/-- Whether an entry is none of those with the given identities. -/
def spared (ids : List ItemId) (entry : Entry Item) : Bool :=
  !ids.any fun id => name? entry == some id.id

/-- **To remove an identity takes out the item that has it**, where no name stands twice. -/
theorem removeFirst?_eq {entries : List (Entry Item)}
    (distinct : (entries.filterMap name?).Nodup) {id : ItemId}
    (known : id.id ∈ entries.filterMap name?) :
    removeFirst? id.id entries = some (entries.filter (spared [id])) := by
  induction entries with
  | nil => cases known
  | cons entry rest ih =>
    cases entry with
    | error error =>
      show (removeFirst? id.id rest).map _ = _
      rw [ih distinct known]
      rfl
    | ok item =>
      rw [List.filterMap_cons] at distinct known
      obtain ⟨fresh, distinct⟩ := List.nodup_cons.mp distinct
      unfold removeFirst?
      split
      · rename_i same
        have others : ∀ other ∈ rest, spared [id] other = true := by
          intro other member
          have differs : name? other ≠ some id.id := fun named =>
            fresh (List.mem_filterMap.mpr ⟨other, member, named.trans (congrArg some same.symm)⟩)
          simp [spared, differs]
        have gone : spared [id] (.ok item) = false := by simp [spared, name?, same]
        rw [List.filter_cons, gone, List.filter_eq_self.mpr others]
        rfl
      · rename_i other
        have behind : id.id ∈ rest.filterMap name? := by
          rcases List.mem_cons.mp known with same | behind
          · exact absurd same.symm other
          · exact behind
        have stays : spared [id] (.ok item) = true := by simp [spared, name?, other]
        rw [ih distinct behind, List.filter_cons, stays]
        rfl

/-- Those that are none of several identities are none of the first and none of the others. -/
theorem filter_spared_cons (id : ItemId) (rest : List ItemId) (entries : List (Entry Item)) :
    entries.filter (spared (id :: rest)) = (entries.filter (spared [id])).filter (spared rest) := by
  rw [List.filter_filter]
  refine List.filter_congr fun entry _ => ?_
  simp [spared, Bool.and_comm]

/-- **To remove identities takes out the items that have them**, in whatever order, where no name
stands twice among the items and none among the identities. -/
theorem removeAll_eq {ids : List ItemId} {entries : List (Entry Item)}
    (distinct : (entries.filterMap name?).Nodup) (once : (ids.map ItemId.id).Nodup)
    (known : ∀ id ∈ ids, id.id ∈ entries.filterMap name?) :
    removeAll ids entries = (ids.map fun _ => .ok (), entries.filter (spared ids)) := by
  induction ids generalizing entries with
  | nil =>
    have all : entries.filter (spared []) = entries := List.filter_eq_self.mpr fun _ _ => rfl
    rw [all]
    rfl
  | cons id rest ih =>
    rw [List.map_cons] at once
    obtain ⟨fresh, once⟩ := List.nodup_cons.mp once
    have left : ∀ other ∈ rest, other.id ∈ (entries.filter (spared [id])).filterMap name? := by
      intro other member
      obtain ⟨entry, here, named⟩ := List.mem_filterMap.mp (known other (.tail _ member))
      have apart : other.id ≠ id.id := fun same =>
        fresh (List.mem_map.mpr ⟨other, member, same⟩)
      have stays : spared [id] entry = true := by simp [spared, named, apart]
      exact List.mem_filterMap.mpr ⟨entry, List.mem_filter.mpr ⟨here, stays⟩, named⟩
    have fewer : ((entries.filter (spared [id])).filterMap name?).Nodup :=
      distinct.sublist (List.filter_sublist.filterMap name?)
    rw [removeAll, removeFirst?_eq distinct (known id List.mem_cons_self)]
    show (Except.ok () :: (removeAll rest (entries.filter (spared [id]))).1,
      (removeAll rest (entries.filter (spared [id]))).2) = _
    rw [ih fewer once left, filter_spared_cons id rest]
    rfl

/-- Whether an entry stays when all that a restriction admits is removed: a failure always does. -/
def stays (restriction : Option Restriction) : Entry Item → Bool
  | .error _ => true
  | .ok item => !admits restriction (.ok item)

/-- **To remove all that is found leaves the rest and the failures**, where no two items share an
identity. -/
theorem removeAll_found {memory : Memory} {restriction : Option Restriction} {ids : List ItemId}
    (distinct : (memory.entries.filterMap name?).Nodup)
    (found : (ids.map ItemId.id).Perm ((memory.found restriction).filterMap name?)) :
    removeAll ids memory.entries
      = (ids.map fun _ => .ok (), memory.entries.filter (stays restriction)) := by
  have within : ((memory.found restriction).filterMap name?).Sublist
      (memory.entries.filterMap name?) := List.filter_sublist.filterMap name?
  have once : (ids.map ItemId.id).Nodup := found.nodup_iff.mpr (distinct.sublist within)
  have known : ∀ id ∈ ids, id.id ∈ memory.entries.filterMap name? := fun id member =>
    within.subset (found.subset (List.mem_map.mpr ⟨id, member, rfl⟩))
  rw [removeAll_eq distinct once known]
  refine congrArg _ (List.filter_congr fun entry here => ?_)
  cases entry with
  | error error => simp [spared, name?, stays]
  | ok item =>
    -- An item that shares its name with one that is found is that one.
    refine congrArg (! ·) (Bool.eq_iff_iff.mpr ?_)
    have listed : (ids.any fun id => name? (.ok item) == some id.id) = true ↔
        item.id.id ∈ ids.map ItemId.id := by
      rw [List.any_eq_true, List.mem_map]
      refine exists_congr fun id => and_congr_right fun _ => ?_
      rw [beq_iff_eq, name?, Option.some_inj, eq_comm]
    rw [listed, found.mem_iff]
    constructor
    · intro member
      obtain ⟨other, there, named⟩ := List.mem_filterMap.mp member
      obtain ⟨there, admitted⟩ := List.mem_filter.mp there
      rwa [eq_of_name? distinct here there rfl named]
    · exact fun admitted => List.mem_filterMap.mpr
        ⟨.ok item, List.mem_filter.mpr ⟨here, admitted⟩, rfl⟩

end Memory

end Sift
