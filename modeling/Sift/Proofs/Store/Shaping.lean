/-
**How much of each item a search asks for does not change which items come.**

A store in memory finds the same items for two searches that differ only in the fields they ask for,
and pages end at the same positions. So a walk that asks for less takes the same way, also into the
failure of a page, and brings the same items with less of each.

* `Item.valueAt_retain` — what is kept of an item has the values that it had.
* `Memory.answer_asking` — the answers to the two searches.
* `Cursor.drain_asking` — all that comes on the two walks.
-/

import Sift.Proofs.Store.Paging
import Sift.Proofs.Store.Removal

namespace Sift

/-! ### Items with some of their fields -/

namespace Named

variable {α : Type} {test : String → Bool} {name : String}

theorem find?_keep (kept : test name = true) (named : Named α) :
    find? name (keep test named) = find? name named := by
  induction named with
  | nil => rfl
  | cons entry rest ih =>
    obtain ⟨key, value⟩ := entry
    rw [keep, List.filter_cons]
    split
    · rw [find?, find?, ← ih]
      rfl
    · rename_i dropped
      have other : key ≠ name := fun same => dropped (same ▸ kept)
      rw [find?, if_neg other]
      exact ih

end Named

namespace Item

variable {test : String → Bool} {path : FieldPath}

/-- What is kept of an item has the values that it had. The identity is always kept. -/
theorem valueAt_retain
    (kept : path.field = "item_id" ∨ path.field = "changekey" ∨ test path.field = true)
    (item : Item) : (item.retain test).valueAt path = item.valueAt path := by
  unfold valueAt
  by_cases id : path.field = "item_id"
  · rw [if_pos id, if_pos id]
    rfl
  · by_cases key : path.field = "changekey"
    · rw [if_neg id, if_neg id, if_pos key, if_pos key]
      rfl
    · have passed : test path.field = true := (kept.resolve_left id).resolve_left key
      rw [retain, Named.find?_keep passed]

theorem retain_retain (item : Item) (test other : String → Bool) :
    (item.retain test).retain other = item.retain fun name => other name && test name :=
  congrArg (Item.mk item.id) (List.filter_filter ..)

end Item

/-! ### One step of a walk -/

namespace Cursor

section Step

variable {σ : Type} [Store σ] {cursor : Cursor} {session : Session σ}

theorem drain_of_none (nothing : (cursor.next session).1.1 = none) :
    (cursor.drain session).1 = [] := by
  rw [drain]
  split
  · rfl
  · rename_i step
    rw [step] at nothing
    cases nothing

theorem drain_of_some {entry : Entry Item} (given : (cursor.next session).1.1 = some entry) :
    (cursor.drain session).1
      = entry :: ((cursor.next session).1.2.drain (cursor.next session).2).1 := by
  rw [drain]
  split
  · rename_i step
    rw [step] at given
    cases given
  · rename_i step
    rw [step] at given ⊢
    cases given
    rfl

theorem request_next (cursor : Cursor) (session : Session σ) :
    (cursor.next session).1.2.request = cursor.request := by
  have popped : ∀ cursor : Cursor, cursor.pop.2.request = cursor.request := by
    rintro ⟨request, offset, received, buffer, finished⟩
    cases buffer <;> rfl
  show (cursor.refill session).1.pop.2.request = _
  rw [popped]
  unfold refill
  split
  · unfold fetchPage
    split
    · rfl
    · exact request_receive cursor _
  · rfl

end Step

theorem store_next (cursor : Cursor) (session : Session Memory) :
    (cursor.next session).2.store = session.store :=
  next_preserves (fun after => after.store = session.store) (fun _ _ same => same) cursor rfl

end Cursor

/-! ### Searches that differ in what they ask for -/

/-- The same search, asking for other fields of each item. -/
def Request.asking (request : Request) (properties : PropertySet)
    (projection : Option (List FieldPath)) : Request :=
  { request with properties, projection }

/-- The page with something done to each of its items. -/
def Page.mapItems (f : Item → Item) (page : Page) : Page :=
  ⟨page.entries.map (·.map f), page.next⟩

section Asking

variable (properties : PropertySet) (projection : Option (List FieldPath))

/-- **A search that asks for less is answered with the same items**, as much of each as it asks for,
and fails where the other one does. -/
theorem Memory.answer_asking (memory : Memory) {request : Request}
    (whole : request.properties ≠ .idOnly) :
    memory.answer (request.asking properties projection)
      = (memory.answer request).map
          (Page.mapItems (shape (request.asking properties projection))) := by
  have unshaped : shape request = id := funext fun item => if_neg whole
  have plain : (fun entry : Entry Item => entry.map (shape request)) = id := by
    rw [unshaped]
    exact funext fun entry => by cases entry <;> rfl
  have paged : memory.page (request.asking properties projection)
      = (memory.page request).mapItems (shape (request.asking properties projection)) := by
    simp only [page, Page.mapItems, plain, List.map_id, List.length_map, List.isEmpty_map]
    rfl
  unfold answer
  rw [paged]
  cases memory.pageFailure with
  | none => rfl
  | some failure =>
    show (if failure.1 ≤ request.offset then _ else _) = Except.map _ (if _ then _ else _)
    split <;> rfl

namespace Cursor

/-- The walk that asks for other fields of each item, where both have come as far. -/
def asking (cursor : Cursor) : Cursor :=
  { cursor with
    request := cursor.request.asking properties projection
    buffer := cursor.buffer.map
      (·.map (Memory.shape (cursor.request.asking properties projection))) }

/-- Answers that show the same leave walks as far as each other. -/
theorem receive_asking (cursor : Cursor) (answer : Entry Page) :
    (cursor.asking properties projection).receive
        (answer.map (Page.mapItems (Memory.shape (cursor.request.asking properties projection))))
      = (cursor.receive answer).asking properties projection := by
  cases answer with
  | error error => rfl
  | ok page =>
    have cut : (cursor.asking properties projection).cut
          (page.entries.map (·.map (Memory.shape (cursor.request.asking properties projection))))
        = (cursor.cut page.entries).map
          (·.map (Memory.shape (cursor.request.asking properties projection))) := by
      have wanted : (cursor.asking properties projection).remaining = cursor.remaining := rfl
      unfold Cursor.cut
      rw [wanted]
      cases cursor.remaining with
      | none => rfl
      | some most => exact List.map_take.symm
    show (cursor.asking properties projection).receive (.ok (page.mapItems _)) = _
    simp only [receive, Page.mapItems, cut, List.length_map, List.isEmpty_map]
    cases page.next with
    | none => rfl
    | some next =>
      show (if (!(cursor.cut page.entries).isEmpty && decide (cursor.offset < next.toNat)) = true
        then _ else _) = asking properties projection (if _ then _ else _)
      split <;> rfl

/-- Giving an entry does, too. -/
theorem pop_asking (cursor : Cursor) :
    (cursor.asking properties projection).pop
      = (cursor.pop.1.map (·.map (Memory.shape (cursor.request.asking properties projection))),
        cursor.pop.2.asking properties projection) := by
  obtain ⟨request, offset, received, buffer, finished⟩ := cursor
  cases buffer <;> rfl

variable {session other : Session Memory}

/-- So does a refill from stores that hold the same. -/
theorem refill_asking (cursor : Cursor) (whole : cursor.request.properties ≠ .idOnly)
    (same : other.store = session.store) :
    ((cursor.asking properties projection).refill other).1
      = (cursor.refill session).1.asking properties projection := by
  have needed : (cursor.asking properties projection).buffer.isEmpty = cursor.buffer.isEmpty :=
    List.isEmpty_map
  have wanted : (cursor.asking properties projection).remaining = cursor.remaining := rfl
  unfold refill
  rw [needed]
  show ((if (cursor.buffer.isEmpty && !cursor.finished) = true then _ else _ : Query Memory Cursor)
    other).1 = _
  split
  · unfold fetchPage
    rw [wanted]
    split
    · rfl
    · have whole : cursor.pageRequest.properties ≠ .idOnly := whole
      show (cursor.asking properties projection).receive
          (other.store.answer (cursor.pageRequest.asking properties projection))
        = (cursor.receive (session.store.answer cursor.pageRequest)).asking properties projection
      rw [same, Memory.answer_asking properties projection session.store whole]
      exact receive_asking properties projection cursor _
  · rfl

/-- **The next entries of the two walks** are as much of the same item as each asks for. -/
theorem next_asking (cursor : Cursor) (whole : cursor.request.properties ≠ .idOnly)
    (same : other.store = session.store) :
    ((cursor.asking properties projection).next other).1
      = ((cursor.next session).1.1.map
          (·.map (Memory.shape (cursor.request.asking properties projection))),
        (cursor.next session).1.2.asking properties projection) := by
  show ((cursor.asking properties projection).refill other).1.pop = _
  rw [refill_asking properties projection cursor whole same, pop_asking]
  rfl

/-- **All that comes on the two walks** are the same items, as much of each as each asks for. -/
theorem drain_asking (cursor : Cursor) (whole : cursor.request.properties ≠ .idOnly)
    (same : other.store = session.store) :
    ((cursor.asking properties projection).drain other).1
      = (cursor.drain session).1.map
          (·.map (Memory.shape (cursor.request.asking properties projection))) := by
  fun_induction cursor.drain session generalizing other with
  | case1 cursor session after session' step =>
    have next := next_asking properties projection cursor whole same
    rw [step] at next
    exact drain_of_none (congrArg Prod.fst next)
  | case2 cursor session entry after session' step rest session'' drained ih =>
    have next := next_asking properties projection cursor whole same
    have request := request_next cursor session
    have store := store_next cursor session
    rw [step] at next request store
    have again : ((cursor.asking properties projection).next other).2.store = session'.store :=
      (store_next _ other).trans (same.trans store.symm)
    rw [drain_of_some (congrArg Prod.fst next), congrArg Prod.snd next, ih (request ▸ whole) again,
      drained]
    rfl

end Cursor

end Asking

end Sift
