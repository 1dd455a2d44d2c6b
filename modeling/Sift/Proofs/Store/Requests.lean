/-
**Which requests a computation sends.**

What was sent stays on record, so that a computation adds requests behind those of before
(`Session.Adds`). Of a whole computation it is said here that all it ever sends are of some kind
(`Sends`), in any session and whatever the store answers. That holds of a sequence if it does of its
parts. It holds of a walk if its request is of that kind, wherever the pages start.

* `Sends.bind`, `Sends.map` — computations put together.
* `Cursor.sends_next`, `Cursor.sends_drain` — a step of a walk, and all of it.
* `Cursor.mem_requests_drain` — a walk that wants anything sends the request that it was made of.
* `Stream.Asking.next`, `Stream.Asking.after`, `Stream.Asking.sends_collect` — passes over rows.
-/

import Sift.Proofs.Store.Shaping
import Sift.QuerySet.Stream

namespace Sift

variable {σ α β : Type} {allowed : Request → Prop}

/-- Whether only requests of some kind were sent between two sessions. -/
def Session.Adds (allowed : Request → Prop) (before after : Session σ) : Prop :=
  ∃ asked, after.requests = before.requests ++ asked ∧ ∀ request ∈ asked, allowed request

theorem Session.Adds.refl (session : Session σ) : session.Adds allowed session :=
  ⟨[], (List.append_nil _).symm, nofun⟩

theorem Session.Adds.trans {before between after : Session σ} (first : before.Adds allowed between)
    (second : between.Adds allowed after) : before.Adds allowed after := by
  obtain ⟨front, early, each⟩ := first
  obtain ⟨back, late, others⟩ := second
  refine ⟨front ++ back, by rw [late, early, List.append_assoc], fun request member => ?_⟩
  rcases List.mem_append.mp member with here | there
  · exact each request here
  · exact others request there

theorem Session.requests_search [Store σ] (request : Request) (session : Session σ) :
    (Session.search request session).2.requests = session.requests ++ [request] := by
  show (session.calls ++ [Call.search request]).filterMap Call.request? = _
  rw [List.filterMap_append]
  rfl

/-- To remove items is no search. -/
theorem Session.requests_remove [Store σ] (ids : List ItemId) (session : Session σ) :
    (Session.remove ids session).2.requests = session.requests := by
  show (session.calls ++ [Call.remove ids]).filterMap Call.request? = _
  rw [List.filterMap_append]
  exact List.append_nil _

/-- **Whether a computation sends only requests of some kind**, in any session. -/
def Sends (allowed : Request → Prop) (query : Query σ α) : Prop :=
  ∀ session : Session σ, session.Adds allowed (query session).2

namespace Sends

theorem pure (result : α) : Sends allowed (pure result : Query σ α) :=
  fun session => .refl session

theorem bind {first : Query σ α} {second : α → Query σ β} (here : Sends allowed first)
    (there : ∀ result, Sends allowed (second result)) : Sends allowed (first >>= second) :=
  fun session => (here session).trans (there _ _)

theorem map {query : Query σ α} (f : α → β) (sends : Sends allowed query) :
    Sends allowed (f <$> query) :=
  sends

theorem search [Store σ] {request : Request} (permitted : allowed request) :
    Sends allowed (Session.search request : Query σ (Entry Page)) := by
  refine fun session => ⟨[request], Session.requests_search request session, ?_⟩
  intro other member
  rw [List.mem_singleton.mp member]
  exact permitted

theorem remove [Store σ] (ids : List ItemId) :
    Sends allowed (Session.remove ids : Query σ (List (Entry Unit))) := by
  refine fun session => ⟨[], ?_, nofun⟩
  rw [Session.requests_remove]
  exact (List.append_nil _).symm

end Sends

/-! ### Walks -/

section Walks

variable [Store σ]
  (moves : ∀ request offset maxItems, allowed request → allowed { request with offset, maxItems })

namespace Cursor

variable {cursor : Cursor}

include moves

/-- A step of a walk sends its next page, if it sends anything. -/
theorem sends_next (permitted : allowed cursor.request) :
    Sends allowed (cursor.next : Query σ (Option (Entry Item) × Cursor)) := by
  have refill : Sends allowed (cursor.refill : Query σ Cursor) := by
    unfold refill
    split
    · unfold fetchPage
      split
      · exact .pure _
      · exact .bind (.search (moves _ _ _ permitted)) fun _ => .pure _
    · exact .pure _
  exact .bind refill fun _ => .pure _

/-- **A walk sends nothing but its pages.** -/
theorem sends_drain (permitted : allowed cursor.request) :
    Sends allowed (cursor.drain : Query σ (List (Entry Item))) := by
  intro session
  fun_induction cursor.drain session with
  | case1 cursor session after session' step =>
    have next := sends_next moves permitted session
    rw [step] at next
    exact next
  | case2 cursor session entry after session' step rest session'' drained ih =>
    have next := sends_next moves permitted session
    have same := request_next cursor session
    rw [step] at next same
    have others := ih (same ▸ permitted)
    rw [drained] at others
    exact next.trans others

omit moves

/-- A walk starts with the request that it is made of, if any entry is wanted. -/
theorem requests_next_start {first : Request} (wanting : first.maxItems ≠ some 0)
    (session : Session σ) :
    ((start first).next session).2.requests = session.requests ++ [first] := by
  have remaining : (start first).remaining = first.maxItems := by
    show first.maxItems.map (· - 0) = _
    simp
  have page : (start first).pageRequest = first := by
    rw [pageRequest, remaining]
    rfl
  have unanswered : (start first).remaining ≠ some 0 := remaining ▸ wanting
  show (((start first).fetchPage) session).2.requests = _
  rw [fetchPage, if_neg unanswered, page]
  exact Session.requests_search first session

/-- **A walk sends the request that it is made of**, if any entry is wanted. -/
theorem mem_requests_drain {first : Request} (wanting : first.maxItems ≠ some 0)
    (session : Session σ) : first ∈ ((start first).drain session).2.requests := by
  have front := requests_next_start wanting session
  have here : first ∈ ((start first).next session).2.requests := by
    rw [front]
    exact List.mem_concat_self
  rw [drain]
  split
  · rename_i step
    rw [step] at here
    exact here
  · rename_i cursor' session' step
    rw [step] at here
    have always : Sends (fun _ => True) (cursor'.drain : Query σ (List (Entry Item))) :=
      sends_drain (fun _ _ _ _ => trivial) trivial
    obtain ⟨rest, later, -⟩ := always session'
    show first ∈ (cursor'.drain session').2.requests
    rw [later]
    exact List.mem_append_left rest here

end Cursor

/-! ### Passes -/

namespace Stream

/-- A pass whose pages, if it has any, are of some kind. -/
def Asking (allowed : Request → Prop) (stream : Stream) : Prop :=
  match stream.source with
  | .pages cursor | .unsorted cursor _ => allowed cursor.request
  | .nothing | .sorted _ => True

theorem asking_ofRequest {request : Request} (permitted : allowed request) (keys : List SortKey)
    (shaper : Shaper) : (ofRequest request keys shaper).Asking allowed := by
  unfold ofRequest
  cases keys with
  | nil => exact permitted
  | cons key rest => exact permitted

/-- A pass after so many rows were asked for. -/
def after : Nat → Stream → Query σ Stream
  | 0, stream => return stream
  | count + 1, stream => do
    let (_, stream) ← stream.next
    stream.after count

theorem asking_takeSorted (stream : Stream) (entries : List (Entry Item)) :
    (stream.takeSorted entries).2.Asking allowed := by
  cases entries with
  | nil => trivial
  | cons entry rest => trivial

namespace Asking

variable {stream : Stream} (asking : stream.Asking allowed)

include asking

/-- To ask for a row does not change of what kind the pages are. -/
theorem next (session : Session σ) : (stream.next session).1.2.Asking allowed := by
  obtain ⟨source, shaper⟩ := stream
  cases source with
  | nothing => exact asking
  | pages cursor =>
    show allowed (cursor.next session).1.2.request
    rw [Cursor.request_next]
    exact asking
  | unsorted cursor keys => exact asking_takeSorted _ _
  | sorted entries => exact asking_takeSorted _ _

include moves

theorem sends_next : Sends allowed (stream.next : Query σ (Option (Entry Row) × Stream)) := by
  obtain ⟨source, shaper⟩ := stream
  cases source with
  | nothing => exact .pure _
  | pages cursor => exact .bind (Cursor.sends_next moves asking) fun _ => .pure _
  | unsorted cursor keys => exact .bind (Cursor.sends_drain moves asking) fun _ => .pure _
  | sorted entries => exact .pure _

/-- **To ask for any number of rows sends only pages of that kind**, and so does what follows. -/
theorem after (count : Nat) (session : Session σ) :
    (stream.after count session).1.Asking allowed ∧
      session.Adds allowed (stream.after count session).2 := by
  induction count generalizing stream session with
  | zero => exact ⟨asking, .refl session⟩
  | succ count ih =>
    obtain ⟨still, others⟩ := ih (asking.next session) (stream.next session).2
    exact ⟨still, (asking.sends_next moves session).trans others⟩

theorem sends_collect : Sends allowed (stream.collect : Query σ (List (Entry Row))) := by
  obtain ⟨source, shaper⟩ := stream
  cases source with
  | nothing => exact .pure _
  | pages cursor => exact .bind (Cursor.sends_drain moves asking) fun _ => .pure _
  | unsorted cursor keys => exact .bind (Cursor.sends_drain moves asking) fun _ => .pure _
  | sorted entries => exact .pure _

end Asking

end Stream

end Walks

end Sift
