/-
**Pages have room for an item.**

A page of no items ends a walk, so that a request for pages of size zero finds nothing, whatever
there is to find. A query set sends no such request as long as its own two sizes are not zero, and
exactly then if it has anything to ask for. No change sets them to zero but one: settings are taken
as they are given, and refused only where they are read from a text.

* `QuerySet.Sized`, `QuerySet.Sized.leads` — sizes that are not zero, and that calls keep them so.
* `QuerySet.Sized.sends_answer` — no call of a sized set asks for pages without room.
* `QuerySet.sized_of_sends` — a set with a size of zero does ask for them.
* `QuerySet.pages_have_room` — both, and that nothing is missed over an honest store.
* `QuerySet.zero_settings_hide_items` — what is missed otherwise.
-/

import Sift.Catalog.Standard
import Sift.Proofs.QuerySet.Bounded
import Sift.Proofs.QuerySet.Cache
import Sift.Proofs.QuerySet.Removal
import Sift.Proofs.QuerySet.Searches

namespace Sift

/-- Whether the pages of a request have room for an item. -/
def Request.HasRoom (request : Request) : Prop := 1 ≤ request.pageSize

theorem Request.HasRoom.moved (request : Request) (offset : Nat) (maxItems : Option Nat)
    (room : request.HasRoom) : Request.HasRoom { request with offset, maxItems } :=
  room

/-- Whether a store serves every search honestly whose pages have room for an item. -/
def Store.Honest {σ : Type} [Store σ] (served : Request → List (Entry Item)) (store : σ) : Prop :=
  ∀ first : Request, first.HasRoom → Store.Serves first (served first) store

/-- A store in memory is honest as long as its pages do not fail. -/
theorem Memory.honest {memory : Memory} (steady : memory.pageFailure = none)
    (addressable : memory.entries.length < UInt64.size) : Store.Honest memory.served memory :=
  fun _ room => Memory.serves steady addressable room

theorem Request.limit_of_no_room {request : Request} (zero : request.pageSize = 0) :
    request.limit = 0 := by
  unfold limit
  rw [zero]
  split
  · rfl
  · exact Nat.min_zero _

/-- A page without room is an empty last one, wherever it starts. -/
theorem Memory.answer_of_no_room {memory : Memory} (steady : memory.pageFailure = none)
    {request : Request} (zero : request.pageSize = 0) :
    memory.answer request = .ok (.last []) := by
  unfold answer page
  rw [steady, Request.limit_of_no_room zero]
  simp [Page.last]

/-- **A walk in pages without room finds nothing**, whatever a store in memory holds. -/
theorem Memory.drain_of_no_room {session : Session Memory} {request : Request}
    (steady : session.store.pageFailure = none) (zero : request.pageSize = 0) :
    ((Cursor.start request).drain session).1 = [] := by
  have nothing : ((Cursor.start request).receive (.ok (.last []))).buffer = [] := by
    show (Cursor.start request).cut [] = []
    unfold Cursor.cut
    split
    · rfl
    · exact List.take_nil
  refine Cursor.drain_of_none ?_
  show ((Cursor.start request).fetchPage session).1.pop.1 = none
  unfold Cursor.fetchPage
  split
  · rfl
  · show ((Cursor.start request).receive (session.store.answer _)).pop.1 = none
    have roomless : (Cursor.start request).pageRequest.pageSize = 0 := zero
    rw [Memory.answer_of_no_room steady roomless, Cursor.pop, nothing]

namespace QuerySet

variable {σ : Type} {set after : QuerySet}

/-! ### Sizes -/

/-- **A query set whose page sizes are not zero.** -/
structure Sized (set : QuerySet) : Prop where
  pages : 1 ≤ set.pageSize
  idPages : 1 ≤ set.idPageSize

/-- Whether a change sets no page size to zero. Only settings do. -/
def Change.Sized : Change → Prop
  | .settings given => 1 ≤ given.pageSize ∧ 1 ≤ given.countPageSize
  | _ => True

theorem sized_ofFolders (catalog : Catalog) (folders : List FolderId) :
    (ofFolders catalog folders).Sized := by
  constructor
  · show 1 ≤ 100
    decide
  · show 1 ≤ 1000
    decide

/-- **Other changes leave the sizes alone**, or set one that is not zero. -/
theorem Sized.changed (sized : set.Sized) (change : Change) (permitted : change.Sized)
    (made : set.changed change = .ok after) : after.Sized := by
  cases makes_of_changed made with
  | pageSize positive => exact ⟨positive, sized.idPages⟩
  | settings settings => exact ⟨permitted.1, permitted.2⟩
  | _ => exact ⟨sized.pages, sized.idPages⟩

/-- A call that runs a set leaves its sizes alone. -/
theorem Sized.leaves (sized : set.Sized) (leaves : set.Leaves after) : after.Sized := by
  cases leaves <;> exact ⟨sized.pages, sized.idPages⟩

theorem Valid.leaves_answer [Store σ] (valid : set.Valid) (call : Run) (session : Session σ) :
    set.Leaves (set.answer call session).1.2 := by
  have left : (set.run call session).1.2 = (set.answer call session).1.2 := by
    rw [run_eq_outcome, outcome_snd]
  rw [← left]
  rcases valid.run call session with ⟨-, leaves⟩ | ⟨error, refused⟩
  · exact leaves
  · rw [run_of_refuses refused]
    exact .same

/-- **What calls lead to is sized**, if no settings set a size to zero. -/
theorem Sized.leads [Store σ] {start : QuerySet} (reached : Reachable σ start)
    (sized : start.Sized) (leads : Leads σ Change.Sized start set) : set.Sized := by
  induction leads with
  | start => exact sized
  | change change permitted _ made before => exact before.changed change permitted made
  | @run set call session before sized =>
    exact sized.leaves ((before.reachable reached).valid.leaves_answer call session)

/-! ### Requests -/

section Requests

variable [Store σ]

theorem asking_of_stream {stream : Stream} {offset pageSize : Nat} {maxItems : Option Nat}
    (room : 1 ≤ pageSize) (made : set.stream offset maxItems pageSize = .ok stream) :
    stream.Asking Request.HasRoom :=
  asking_of_request (fun _ => room) made

/-- **No call of a sized set asks for pages without room.** -/
theorem Sized.sends_answer (sized : set.Sized) (call : Run) :
    Sends Request.HasRoom (set.answer call : Query σ (Answer Reply)) := by
  have searches : set.Searches Request.HasRoom := fun _ _ _ _ room => room sized.pages
  exact searches.sends_answer Request.HasRoom.moved call fun _ _ => sized.idPages

/-! ### What a whole pass sends and finds -/

/-- A pass has a row for each entry of its walk. -/
theorem length_pass (set : QuerySet) (restriction : Option Restriction) (session : Session σ) :
    (set.pass restriction session).1.length
      = ((Cursor.start (set.request restriction 0 none set.pageSize)).drain session).1.length := by
  show ((sortEntries _ _).map _).length = _
  rw [List.length_map, (perm_sortEntries _ _).length_eq]

section Whole

variable {restriction : Option Restriction} (uncached : set.cache = none)
  (matched : set.predicate ≠ none) (asked : set.restriction = .ok restriction)

include uncached matched asked

/-- A removal without rows makes a pass over the identities, and has an outcome for each entry. -/
theorem delete_of_pass (session : Session σ) :
    (∃ outcomes, (set.delete session).1.1 = .ok outcomes ∧
      outcomes.length = ((Cursor.start (set.idRequest restriction)).drain session).1.length) ∧
    (set.delete session).2.requests
      = ((Cursor.start (set.idRequest restriction)).drain session).2.requests := by
  have known : set.fetchIds session = _ := fetchIds_of_restriction matched asked
  rw [← removalTargets_of_fetchIds (.inl uncached)] at known
  rw [delete_of_targets known]
  split
  · refine ⟨⟨_, rfl, ?_⟩, rfl⟩
    rw [length_assignOutcomes, List.length_map]
  · refine ⟨⟨_, rfl, ?_⟩, Session.requests_remove _ _⟩
    rw [length_assignOutcomes, List.length_map]

/-- **Pages without room are asked for where a size is zero**, by fetching all rows or by a
removal. -/
theorem sized_of_sends (store : σ)
    (room : ∀ call, ∀ request ∈ (set.answer call ⟨store, []⟩).2.requests, request.HasRoom) :
    set.Sized := by
  constructor
  · refine room .fetch (set.request restriction 0 none set.pageSize) ?_
    show _ ∈ (set.fetch ⟨store, []⟩).2.requests
    rw [fetch_eq_pass uncached matched asked]
    exact Cursor.mem_requests_drain (Option.some_ne_none 0).symm _
  · refine room .delete (set.idRequest restriction) ?_
    show _ ∈ (set.delete ⟨store, []⟩).2.requests
    rw [(delete_of_pass uncached matched asked _).2]
    exact Cursor.mem_requests_drain (Option.some_ne_none 0).symm _

/-- **A pass over an honest store misses nothing**: there are as many rows as entries that the store
serves, and as many outcomes of a removal. -/
theorem Sized.whole_of_honest (sized : set.Sized) {served : Request → List (Entry Item)}
    {session : Session σ} (honest : Store.Honest served session.store) :
    (set.answer .count session).1.1
        = .ok (.count (served (set.request restriction 0 none set.pageSize)).length) ∧
      ∃ outcomes, (set.answer .delete session).1.1 = .ok (.outcomes outcomes) ∧
        outcomes.length = (served (set.idRequest restriction)).length := by
  constructor
  · let first := set.request restriction 0 none set.pageSize
    have found : ((Cursor.start first).drain session).1 = served first :=
      Cursor.drain_start (honest first sized.pages)
    have fetched := fetch_eq_pass uncached matched asked session
    show ((inForm .count <$> set.onRows _) session).1.1 = _
    rw [inForm_of_run .count (onRows_of_run fetched _), ← found, ← length_pass]
    rfl
  · obtain ⟨⟨outcomes, given, length⟩, -⟩ := delete_of_pass uncached matched asked session
    have found : ((Cursor.start (set.idRequest restriction)).drain session).1
        = served (set.idRequest restriction) :=
      Cursor.drain_start (honest (set.idRequest restriction) sized.idPages)
    refine ⟨outcomes, ?_, by rw [length, found]⟩
    show (set.delete session).1.1.map Reply.outcomes = _
    rw [given]
    rfl

end Whole

end Requests

/-! ### Pages with room -/

/-- **No pages without room are asked for, unless settings say so.** Let a query set come from the
items of some folders by any calls, with no settings that set a size to zero. Then no call that runs
it sends a request for pages without room, and neither does a pass over its result, however many
rows it is asked for. So nothing is missed over a store that serves such requests honestly: to count
gives as many rows as it serves entries, and a removal gives as many outcomes. Conversely, a query
set that has anything to ask for does send a request for pages without room if one of its sizes is
zero, whatever calls it comes from. -/
theorem pages_have_room [Store σ] {catalog : Catalog} {folders : List FolderId} {set : QuerySet}
    (leads : Leads σ Change.Sized (ofFolders catalog folders) set) :
    (∀ call, Sends Request.HasRoom (set.answer call : Query σ (Answer Reply))) ∧
      (∀ stream, set.iterator = .ok stream → ∀ (count : Nat) (session : Session σ),
        session.Adds Request.HasRoom (stream.after count session).2 ∧
          Sends Request.HasRoom
            ((stream.after count session).1.collect : Query σ (List (Entry Row)))) ∧
      (set.cache = none → set.predicate ≠ none →
        ∃ restriction, set.restriction = .ok restriction ∧
          ∀ (served : Request → List (Entry Item)) (session : Session σ),
            Store.Honest served session.store →
              (set.answer .count session).1.1
                  = .ok (.count (served (set.request restriction 0 none set.pageSize)).length) ∧
                ∃ outcomes, (set.answer .delete session).1.1 = .ok (.outcomes outcomes) ∧
                  outcomes.length = (served (set.idRequest restriction)).length) ∧
      ∀ other, Reachable σ other → other.cache = none → other.predicate ≠ none → ∀ store : σ,
        (∀ call, ∀ request ∈ (other.answer call ⟨store, []⟩).2.requests, request.HasRoom) ↔
          other.Sized := by
  have start : Reachable σ (ofFolders catalog folders) := .folders catalog folders
  have sized : set.Sized := (sized_ofFolders catalog folders).leads start leads
  refine ⟨sized.sends_answer, fun stream made count session => ?_, fun uncached matched => ?_,
    fun other reached uncached matched store => ⟨fun room => ?_, fun sized call => ?_⟩⟩
  · have asking : stream.Asking Request.HasRoom := asking_of_stream sized.pages made
    obtain ⟨still, adds⟩ := asking.after Request.HasRoom.moved count session
    exact ⟨adds, still.sends_collect Request.HasRoom.moved⟩
  · obtain ⟨restriction, asked⟩ := (leads.reachable start).valid.exists_restriction
    exact ⟨restriction, asked, fun served session => sized.whole_of_honest uncached matched asked⟩
  · obtain ⟨restriction, asked⟩ := reached.valid.exists_restriction
    exact sized_of_sends uncached matched asked store room
  · obtain ⟨sent, given, each⟩ := sized.sends_answer call ⟨store, []⟩
    rw [given]
    exact each

theorem pages_have_room_single :
    let set := (ofFolders Catalog.standard []).withSettings { pageSize := 1, countPageSize := 1 }
    let session : Session Memory := ⟨Memory.ofItems [.ofId ⟨"a", none⟩, .ofId ⟨"b", none⟩], []⟩
    (∀ request ∈ (set.answer .fetch session).2.requests, 1 ≤ request.pageSize) ∧
      (set.answer .count session).1.1 = .ok (.count 2) ∧
      ∃ outcomes, (set.answer .delete session).1.1 = .ok (.outcomes outcomes) ∧
        outcomes.length = 2 := by
  intro set session
  have leads : Leads Memory Change.Sized (ofFolders Catalog.standard []) set :=
    .change (.settings _) ⟨by decide, by decide⟩ .start rfl
  obtain ⟨sends, -, whole, -⟩ := pages_have_room leads
  constructor
  · obtain ⟨sent, given, each⟩ := sends .fetch session
    rw [given]
    exact each
  · obtain ⟨restriction, asked, finds⟩ := whole rfl (Option.some_ne_none _)
    have none : set.restriction = .ok none := rfl
    cases asked.symm.trans none
    exact finds session.store.served session (Memory.honest rfl (by decide))

/-- **Settings of size zero hide what there is.** They are taken as they are, and from then on
requests ask for pages without room: an item that matches is neither counted nor removed. -/
theorem zero_settings_hide_items :
    let set := (ofFolders Catalog.standard []).withSettings { pageSize := 0, countPageSize := 0 }
    let session : Session Memory := ⟨Memory.ofItems [.ofId ⟨"a", none⟩], []⟩
    (ofFolders Catalog.standard []).changed (.settings { pageSize := 0, countPageSize := 0 })
        = .ok set ∧
      session.store.found none = [.ok (.ofId ⟨"a", none⟩)] ∧ set.restriction = .ok none ∧
      (∃ request ∈ (set.answer .count session).2.requests, request.pageSize = 0) ∧
      (∃ request ∈ (set.answer .delete session).2.requests, request.pageSize = 0) ∧
      (set.answer .count session).1.1 = .ok (.count 0) ∧
      (set.answer .delete session).1.1 = .ok (.outcomes []) := by
  intro set session
  have asked : set.restriction = .ok none := rfl
  have matched : set.predicate ≠ none := Option.some_ne_none _
  have fetched := fetch_eq_pass rfl matched asked session
  have nothing : (set.pass none session).1.length = 0 := by
    rw [length_pass, Memory.drain_of_no_room rfl rfl]
    rfl
  obtain ⟨⟨outcomes, deleted, length⟩, sent⟩ := delete_of_pass rfl matched asked session
  rw [Memory.drain_of_no_room rfl rfl] at length
  refine ⟨rfl, rfl, rfl, ⟨set.request none 0 none set.pageSize, ?_, rfl⟩,
    ⟨set.idRequest none, ?_, rfl⟩, ?_, ?_⟩
  · show _ ∈ ((inForm .count <$> set.onRows _) session).2.requests
    rw [inForm_of_run .count (onRows_of_run fetched _)]
    exact Cursor.mem_requests_drain (Option.some_ne_none 0).symm session
  · show _ ∈ (set.delete session).2.requests
    rw [sent]
    exact Cursor.mem_requests_drain (Option.some_ne_none 0).symm session
  · show ((inForm .count <$> set.onRows _) session).1.1 = _
    rw [inForm_of_run .count (onRows_of_run fetched _)]
    exact congrArg (Except.ok ∘ Reply.count) nothing
  · show (set.delete session).1.1.map Reply.outcomes = _
    rw [deleted, List.length_eq_zero_iff.mp length]
    rfl

end QuerySet

end Sift
