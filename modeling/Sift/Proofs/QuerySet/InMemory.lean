/-
**The whole result over a store in memory.**

A store in memory gives what it finds in pages, and does not change when it is searched. So to fetch
the whole result gives what is found, sorted and made into rows, whatever the size of the pages.

* `Memory.drain_whole` — a walk from the start gives all that the store serves.
* `QuerySet.fetch_memory`, `QuerySet.count_memory` — the rows of the whole result, and how many.
-/

import Sift.Proofs.QuerySet.Steps
import Sift.Proofs.Store.Paging
import Sift.Proofs.Store.Removal

namespace Sift

/-- Without keys the order stays. -/
theorem sortEntries_nil (entries : List (Entry Item)) : sortEntries [] entries = entries :=
  stableSort_of_not_less (fun _ _ => rfl) entries

theorem perm_sortEntries (keys : List SortKey) (entries : List (Entry Item)) :
    (sortEntries keys entries).Perm entries :=
  perm_stableSort _ entries

/-- The row of a whole item is the item. -/
theorem Shaper.row_whole (item : Item) : (Shaper.whole .entities).row item = .item item := by
  have every : Named.keep (fun name => !(Shaper.whole .entities).stripped.contains name) item.fields
      = item.fields := List.filter_eq_self.mpr fun _ _ => rfl
  show Row.item { item with fields := Named.keep _ item.fields } = _
  rw [every]

/-- **All rows of a pass are those of the walk, sorted**, and the session is as the walk leaves it. -/
theorem Stream.collect_ofRequest {σ : Type} [Store σ] (request : Request) (keys : List SortKey)
    (shaper : Shaper) (session : Session σ) :
    (Stream.ofRequest request keys shaper).collect session
      = ((sortEntries keys ((Cursor.start request).drain session).1).map (·.map shaper.row),
          ((Cursor.start request).drain session).2) := by
  cases keys with
  | nil =>
    rw [sortEntries_nil]
    rfl
  | cons key rest => rfl

/-- **A walk from the start gives all that a store in memory serves.** -/
theorem Memory.drain_whole {session : Session Memory} {request : Request}
    (steady : session.store.pageFailure = none)
    (addressable : session.store.entries.length < UInt64.size) (size : 1 ≤ request.pageSize)
    (first : request.offset = 0) (whole : request.maxItems = none) :
    ((Cursor.start request).drain session).1 = session.store.served request := by
  rw [Cursor.drain_start (Memory.serves steady addressable size), Request.portion, whole, first]
  rfl

namespace QuerySet

variable {set : QuerySet} {session : Session Memory} {restriction : Option Restriction}

/-- The rows of the whole result over a store in memory. -/
def sortedRows (set : QuerySet) (memory : Memory) (restriction : Option Restriction) :
    List (Entry Row) :=
  (sortEntries set.sortKeys (memory.served (set.request restriction 0 none set.pageSize))).map
    (·.map set.plan.2.2.row)

variable (uncached : set.cache = none) (matching : set.predicate ≠ none)
  (asked : set.restriction = .ok restriction) (steady : session.store.pageFailure = none)
  (addressable : session.store.entries.length < UInt64.size) (size : 1 ≤ set.pageSize)

include uncached matching asked steady addressable size

/-- **Fetching over a store in memory** gives and keeps the rows of the whole result, and does not
change the store. -/
theorem fetch_memory :
    (set.fetch session).1
        = (.ok (set.sortedRows session.store restriction),
            { set with cache := some (set.sortedRows session.store restriction) }) ∧
      (set.fetch session).2.store = session.store := by
  let request := set.request restriction 0 none set.pageSize
  have pass : set.iterator = .ok (.ofRequest request set.sortKeys set.plan.2.2) :=
    stream_of_restriction matching asked 0 none set.pageSize
  have walk : ((Cursor.start request).drain session).1 = session.store.served request :=
    Memory.drain_whole steady addressable size rfl rfl
  rw [fetch_of_stream uncached pass, Stream.collect_ofRequest, walk]
  exact ⟨rfl, Cursor.store_drain _ session⟩

/-- There are as many rows as entries that the store finds. -/
theorem count_memory :
    (set.count session).1.1 = .ok (session.store.found restriction).length := by
  obtain ⟨fetched, -⟩ := fetch_memory uncached matching asked steady addressable size
  have counted : (set.count session).1.1
      = .ok (set.sortedRows session.store restriction).length := by
    rw [count, onRows_of_fetch _ fetched]
  rw [counted, sortedRows, List.length_map, (perm_sortEntries _ _).length_eq, Memory.served_eq,
    List.length_map]
  rfl

end QuerySet

end Sift
