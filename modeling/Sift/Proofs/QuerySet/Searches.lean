/-
**Which searches a query set makes.**

Whatever a call reads from a result, it comes from requests of one form: those of the query set, for
some part of the result and in pages of some size. That size is zero only if the one of the query
set is. A removal asks for identities besides.

* `QuerySet.Searches` — whether all requests of this form are of some kind.
* `QuerySet.Searches.sends_answer` — then a call sends nothing else.
-/

import Sift.Proofs.QuerySet.Answers
import Sift.Proofs.QuerySet.Bounded
import Sift.Proofs.Store.Requests

namespace Sift.QuerySet

variable {σ : Type} {set : QuerySet} {allowed : Request → Prop}

/-- **Whether a query set makes only searches of some kind**, for any part of its result, in pages
that have room for an item where its own pages do. -/
def Searches (set : QuerySet) (allowed : Request → Prop) : Prop :=
  ∀ restriction offset maxItems pageSize, (1 ≤ set.pageSize → 1 ≤ pageSize) →
    allowed (set.request restriction offset maxItems pageSize)

/-- The pages of a pass are of some kind if the request for them is. -/
theorem asking_of_request {stream : Stream} {offset pageSize : Nat} {maxItems : Option Nat}
    (permitted : ∀ restriction, allowed (set.request restriction offset maxItems pageSize))
    (made : set.stream offset maxItems pageSize = .ok stream) : stream.Asking allowed := by
  unfold QuerySet.stream at made
  split at made
  · cases made
    trivial
  · obtain ⟨restriction, -, same⟩ := bind_eq_ok_iff.mp made
    cases same
    exact Stream.asking_ofRequest (permitted restriction) _ _

/-- Another predicate does not change what is asked for with it. -/
theorem Searches.filtered {filtered : QuerySet} {predicate : Predicate}
    (searches : set.Searches allowed) (narrowed : set.filter predicate = .ok filtered) :
    filtered.Searches allowed := by
  obtain ⟨resolved, -, made⟩ := bind_eq_ok_iff.mp narrowed
  cases made
  exact searches

namespace Searches

variable [Store σ]
  (moves : ∀ request offset maxItems, allowed request → allowed { request with offset, maxItems })
  (searches : set.Searches allowed)

include moves searches

theorem sends_fetch : Sends allowed (set.fetch : Query σ _) := by
  unfold fetch
  split
  · exact .pure _
  split
  · exact .pure _
  · rename_i stream made
    have asking := asking_of_request (fun restriction => searches restriction 0 none _ id) made
    exact .bind (asking.sends_collect moves) fun _ => .pure _

theorem sends_onRows {α : Type} (read : List (Entry Row) → Except QueryError α) :
    Sends allowed (set.onRows read : Query σ _) :=
  .bind (searches.sends_fetch moves) fun _ => .pure _

theorem sends_get (predicate : Predicate) : Sends allowed (set.get predicate : Query σ _) := by
  unfold QuerySet.get
  split
  · exact searches.sends_onRows moves _
  split
  · exact .pure _
  · rename_i filtered narrowed
    exact .bind ((searches.filtered narrowed).sends_onRows moves _) fun _ => .pure _

theorem sends_index (index : Int64) : Sends allowed (set.index index : Query σ _) := by
  unfold QuerySet.index
  split
  · exact .pure _
  split
  · exact .pure _
  split
  · split
    · exact .pure _
    · rename_i stream made
      -- The page of a single row has room for it, whatever the sizes of the set are.
      have asking := asking_of_request
        (fun restriction => searches restriction _ _ 1 fun _ => Nat.le_refl 1) made
      refine .bind (asking.sends_next moves) fun given => ?_
      split <;> exact .pure _
  · exact searches.sends_onRows moves _

theorem sends_slice (part : Slice) : Sends allowed (set.slice part : Query σ _) := by
  unfold QuerySet.slice
  split
  · exact .pure _
  split
  · exact .pure _
  split
  · exact .pure _
  split
  · dsimp only
    split
    · exact .pure _
    rename_i something
    split
    · exact .pure _
    · rename_i stream made
      have asking := asking_of_request
        (fun restriction => searches restriction _ _ _ (one_le_pageSize something)) made
      exact .bind (asking.sends_collect moves) fun _ => .pure _
  · exact searches.sends_onRows moves _

omit searches in
theorem sends_delete (ids : ∀ restriction, allowed (set.idRequest restriction)) :
    Sends allowed (set.delete : Query σ _) := by
  have fetched : Sends allowed (set.fetchIds : Query σ _) := by
    unfold fetchIds
    split
    · exact .pure _
    split
    · exact .pure _
    · exact .bind (Cursor.sends_drain moves (ids _)) fun _ => .pure _
  have targets : Sends allowed (set.removalTargets : Query σ _) := by
    unfold removalTargets
    split
    · exact .pure _
    · exact fetched
  unfold delete
  refine .bind targets fun found => ?_
  split
  · exact .pure _
  dsimp only
  split
  · exact .bind (.pure _) fun _ => .pure _
  · exact .bind (.remove _) fun _ => .pure _

/-- **A call sends nothing but searches of the query set**, and a removal its request for
identities. -/
theorem sends_answer (call : Run)
    (ids : call = .delete → ∀ restriction, allowed (set.idRequest restriction)) :
    Sends allowed (set.answer call : Query σ (Answer Reply)) := by
  cases call with
  | fetch => exact .map _ (searches.sends_fetch moves)
  | count => exact .map _ (searches.sends_onRows moves _)
  | nonempty => exact .map _ (searches.sends_onRows moves _)
  | get predicate => exact .map _ (searches.sends_get moves predicate)
  | index index => exact .map _ (searches.sends_index moves index)
  | slice part => exact .map _ (searches.sends_slice moves part)
  | delete => exact .map _ (sends_delete moves (ids rfl))

end Searches

end Sift.QuerySet
