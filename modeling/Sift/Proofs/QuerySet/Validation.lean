/-
**What can be checked is checked at once.**

A predicate is resolved when a query set is narrowed by it, and what is resolved always compiles.
So once a query set is there, running it never finds an error that a check could have found: only
a call with arguments of its own may, and then nothing else has happened.

* `QuerySet.Valid.exists_stream`, `QuerySet.Valid.exists_fetch` — a valid set has passes, and rows.
* `QuerySet.Valid.run`, `QuerySet.run_of_refuses` — each call of a valid set is sound, unless it is
  refused, and then it does nothing else.
* `QuerySet.Reachable.valid` — all query sets that calls lead to are valid.
-/

import Sift.Catalog.Standard
import Sift.Proofs.QuerySet.Targets
import Sift.Store.Memory

namespace Sift.QuerySet

variable {σ : Type}

/-! ### Passes of a valid set -/

section Passes

variable {set : QuerySet}

theorem plan_shape (set : QuerySet) : set.plan.2.2.shape = set.shape := by
  unfold plan
  cases set.projection <;> rfl

/-- **A valid set has passes over its result**, which give whole items where its shape says so. -/
theorem Valid.exists_stream (valid : set.Valid) (offset : Nat) (maxItems : Option Nat)
    (pageSize : Nat) :
    ∃ stream, set.stream offset maxItems pageSize = .ok stream ∧
      (set.shape = .entities → stream.shaper.shape = .entities) := by
  by_cases unmatched : set.predicate = none
  · refine ⟨.empty, ?_, fun _ => rfl⟩
    rw [stream, unmatched]
  · obtain ⟨restriction, asked⟩ := valid.exists_restriction
    exact ⟨_, stream_of_restriction unmatched asked _ _ _, fun whole => set.plan_shape ▸ whole⟩

theorem Valid.exists_pass (valid : set.Valid) (offset : Nat) (maxItems : Option Nat)
    (pageSize : Nat) : ∃ stream, set.stream offset maxItems pageSize = .ok stream := by
  obtain ⟨stream, pass, -⟩ := valid.exists_stream offset maxItems pageSize
  exact ⟨stream, pass⟩

/-- Entries made into whole items. -/
theorem wholeItems_map_row {stream : Stream} (shape : stream.shaper.shape = .entities)
    (entries : List (Entry Item)) : WholeItems (entries.map stream.row) := by
  intro row member
  obtain ⟨entry, -, made⟩ := List.mem_map.mp member
  cases entry with
  | error error => cases made
  | ok item =>
    cases made
    exact ⟨_, by rw [Shaper.row, shape]⟩

variable [Store σ]

theorem wholeItems_collect {stream : Stream} (shape : stream.shaper.shape = .entities)
    (session : Session σ) : WholeItems (stream.collect session).1 := by
  unfold Stream.collect
  cases stream.source with
  | nothing => exact fun row member => (nomatch member)
  | pages | unsorted | sorted => exact wholeItems_map_row shape _

/-- **Fetching from a valid set gives rows**, and keeps them. -/
theorem Valid.exists_fetch (valid : set.Valid) (session : Session σ) :
    ∃ rows, (set.fetch session).1 = (.ok rows, { set with cache := some rows }) ∧
      (set.shape = .entities → WholeItems rows) := by
  cases cached : set.cache with
  | some rows =>
    refine ⟨rows, ?_, fun whole => valid.items whole rows cached⟩
    rw [fetch_of_cached cached, ← cached]
  | none =>
    obtain ⟨stream, pass, shaped⟩ := valid.exists_stream 0 none set.pageSize
    rw [fetch_of_stream cached pass]
    exact ⟨_, rfl, fun whole => wholeItems_collect (shaped whole) session⟩

end Passes

/-! ### Answers of a valid set -/

/-- **What is refused.** To get the row of a predicate that the set cannot be filtered by is refused
with the error of the filter, and to slice in steps of zero as such. -/
inductive Refuses (set : QuerySet) : Run → QueryError → Prop
  | get {predicate : Predicate} {error : QueryError} (given : predicate.isEmpty = false)
    (refused : set.filter predicate = .error error) : Refuses set (.get predicate) error
  | slice {part : Slice} (zero : part.step = 0) :
    Refuses set (.slice part) (.invalidArguments .zeroStep)

/-- **What a call leaves that is not refused.** No error is one that checks find, and the set is left
as a call may leave it. -/
structure Sound (set : QuerySet) (left : Option QueryError × QuerySet) : Prop where
  failure : ∀ error ∈ left.1, error.isCompileError = false
  leaves : set.Leaves left.2

section Answers

variable {set after : QuerySet} {α : Type}

/-- An answer is sound if its error is not one that checks find. -/
theorem sound_of {answer : Except QueryError α}
    (failure : ∀ error, answer = .error error → error.isCompileError = false)
    (leaves : set.Leaves after) : set.Sound (outcome (answer, after)) := by
  cases answer with
  | ok result => exact ⟨fun _ failed => (nomatch failed), leaves⟩
  | error error =>
    refine ⟨fun other failed => ?_, leaves⟩
    cases failed
    exact failure error rfl

theorem sound_ok {result : α} (leaves : set.Leaves after) :
    set.Sound (outcome (.ok result, after)) :=
  sound_of (fun _ failed => nomatch failed) leaves

theorem isCompileError_rowOf {entry : Entry Row} {error : QueryError}
    (failed : rowOf entry = .error error) : error.isCompileError = false := by
  cases entry <;> cases failed
  rfl

theorem isCompileError_exactlyOne {rows : List (Entry Row)} {error : QueryError}
    (failed : exactlyOne rows = .error error) : error.isCompileError = false := by
  unfold exactlyOne at failed
  split at failed
  · cases failed
    rfl
  · exact isCompileError_rowOf failed
  · cases failed
    rfl

theorem isCompileError_rowAt {index : Int64} {rows : List (Entry Row)} {error : QueryError}
    (failed : rowAt index rows = .error error) : error.isCompileError = false := by
  unfold rowAt at failed
  split at failed
  · exact isCompileError_rowOf failed
  · cases failed
    rfl

theorem isCompileError_select {part : Slice} {rows : List (Entry Row)} {error : QueryError}
    (failed : select part rows = .error error) : error.isCompileError = false := by
  unfold select at failed
  split at failed <;> cases failed
  rfl

variable [Store σ]

/-- An answer from the rows of a valid set is sound if it is so for any rows. -/
theorem Valid.sound_onRows (valid : set.Valid) (session : Session σ)
    {answer : List (Entry Row) → Except QueryError α}
    (failure : ∀ rows error, answer rows = .error error → error.isCompileError = false) :
    set.Sound (outcome (set.onRows answer session).1) := by
  obtain ⟨rows, fetched, whole⟩ := valid.exists_fetch session
  rw [onRows_of_fetch answer fetched]
  exact sound_of (failure rows) (.cached whole)

/-- The only row of a valid set that is narrowed by a predicate. The set itself is left as it was. -/
theorem Valid.sound_get (valid : set.Valid) (session : Session σ) {predicate : Predicate}
    {filtered : QuerySet} (given : predicate.isEmpty = false)
    (narrowed : set.filter predicate = .ok filtered) :
    set.Sound (outcome (set.get predicate session).1) := by
  have narrow : filtered.Valid := valid.changed (.filter predicate) narrowed
  obtain ⟨rows, fetched, -⟩ := narrow.exists_fetch session
  rw [get_of_filter given narrowed, onRows_of_fetch exactlyOne fetched]
  exact sound_of (fun _ => isCompileError_exactlyOne) .same

theorem Valid.sound_index (valid : set.Valid) (session : Session σ) (index : Int64) :
    set.Sound (outcome (set.index index session).1) := by
  cases cached : set.cache with
  | some rows =>
    rw [index_of_cached cached]
    exact sound_of (fun _ => isCompileError_rowAt) .same
  | none =>
    by_cases unmatched : set.predicate = none
    · rw [index_of_none cached unmatched]
      refine sound_of (fun error failed => ?_) .same
      cases failed
      rfl
    by_cases front : 0 ≤ index.toInt ∧ set.ordering = []
    · obtain ⟨stream, pass⟩ := valid.exists_pass index.toInt.toNat (some 1) 1
      rw [index_of_front cached unmatched front.1 front.2 pass]
      refine sound_of (fun error failed => ?_) .same
      split at failed
      · exact isCompileError_rowOf failed
      · cases failed
        rfl
    · rw [index_of_onRows cached unmatched front]
      exact valid.sound_onRows session fun _ _ => isCompileError_rowAt

theorem Valid.sound_slice (valid : set.Valid) (session : Session σ) {part : Slice}
    (stepping : part.step ≠ 0) : set.Sound (outcome (set.slice part session).1) := by
  cases cached : set.cache with
  | some rows =>
    rw [slice_of_cached stepping cached]
    exact sound_of (fun _ => isCompileError_select) .same
  | none =>
    by_cases unmatched : set.predicate = none
    · rw [slice_of_none stepping cached unmatched]
      exact sound_ok .same
    by_cases forward : part.isForward = true ∧ set.ordering = []
    · obtain ⟨selected, after, sliced⟩ : ∃ selected after,
          set.slice part session = ((.ok selected, set), after) :=
        slice_of_forward stepping cached unmatched forward.1 forward.2 valid.exists_pass
      rw [sliced]
      exact sound_ok .same
    · rw [slice_of_onRows stepping cached unmatched forward]
      exact valid.sound_onRows session fun _ _ => isCompileError_select

theorem Valid.sound_delete (valid : set.Valid) (session : Session σ) :
    set.Sound (outcome (set.delete session).1) := by
  obtain ⟨targets, after, -, known⟩ := valid.exists_targets session
  rw [delete_of_targets known]
  split <;> exact sound_ok .uncached

/-- **A refused call does nothing else.** It calls no store, and the query set is as it was. -/
theorem run_of_refuses {call : Run} {error : QueryError} (refused : set.Refuses call error)
    (session : Session σ) : set.run call session = ((some error, set), session) := by
  cases refused with
  | get given refused =>
    show (outcome (set.get _ session).1, (set.get _ session).2) = _
    rw [get_of_refused given refused]
    rfl
  | slice zero =>
    show (outcome (set.slice _ session).1, (set.slice _ session).2) = _
    rw [slice_of_zero zero]
    rfl

/-- **Each call of a valid set is sound, unless it is refused.** -/
theorem Valid.run (valid : set.Valid) (call : Run) (session : Session σ) :
    set.Sound (set.run call session).1 ∨ ∃ error, set.Refuses call error := by
  cases call with
  | fetch =>
    obtain ⟨rows, fetched, whole⟩ := valid.exists_fetch session
    left
    show set.Sound (outcome (set.fetch session).1)
    rw [fetched]
    exact sound_ok (.cached whole)
  | count => exact .inl (valid.sound_onRows session fun _ _ failed => nomatch failed)
  | nonempty => exact .inl (valid.sound_onRows session fun _ _ failed => nomatch failed)
  | get predicate =>
    cases given : predicate.isEmpty with
    | true =>
      left
      show set.Sound (outcome (set.get predicate session).1)
      rw [get_of_isEmpty given]
      exact valid.sound_onRows session fun _ _ => isCompileError_exactlyOne
    | false =>
      cases narrowed : set.filter predicate with
      | ok filtered => exact .inl (valid.sound_get session given narrowed)
      | error error => exact .inr ⟨error, .get given narrowed⟩
  | index index => exact .inl (valid.sound_index session index)
  | slice part =>
    by_cases zero : part.step = 0
    · exact .inr ⟨_, .slice zero⟩
    · exact .inl (valid.sound_slice session zero)
  | delete => exact .inl (valid.sound_delete session)

end Answers

/-- **All query sets that calls lead to are valid.** -/
theorem Reachable.valid [Store σ] {set : QuerySet} (reached : Reachable σ set) : set.Valid := by
  induction reached with
  | folders catalog folders => exact valid_ofFolders catalog folders
  | change change _ made valid => exact valid.changed change made
  | run call session _ valid =>
    rcases valid.run call session with ⟨-, leaves⟩ | ⟨error, refused⟩
    · exact valid.leaves leaves
    · rw [run_of_refuses refused]
      exact valid

/-! ### Eager validation -/

/-- **Validation is eager, and a refused call changes nothing.** Every query set that calls lead to
has a restriction and passes over its result. Of all calls that run it, only two can fail with an
error that a check finds, and they are refused: to get the row of a predicate that the set cannot be
filtered by, with the error of the filter, and to slice in steps of zero. A call that is refused
calls no store and leaves the query set as it was. A change is no such call: it is a function of the
set, sees no store, and where it fails there is no other set. -/
theorem validation_eager [Store σ] {set : QuerySet} (reached : Reachable σ set) :
    (∃ restriction, set.restriction = .ok restriction) ∧
      (∃ stream, set.iterator = .ok stream) ∧
      (∀ (call : Run) (error : QueryError), set.Refuses call error → ∀ session : Session σ,
        set.run call session = ((some error, set), session)) ∧
      ∀ (call : Run) (session : Session σ) (error : QueryError),
        (set.run call session).1.1 = some error → error.isCompileError = true →
          set.Refuses call error := by
  have valid := reached.valid
  obtain ⟨stream, pass, -⟩ := valid.exists_stream 0 none set.pageSize
  refine ⟨valid.exists_restriction, ⟨stream, pass⟩, fun call error => run_of_refuses,
    fun call session error failed found => ?_⟩
  rcases valid.run call session with ⟨failure, -⟩ | ⟨refusal, refused⟩
  · rw [failure error failed] at found
    cases found
  · rw [run_of_refuses refused] at failed
    cases failed
    exact refused

theorem validation_eager_zeroStep :
    ∃ set, (ofFolders Catalog.standard []).exclude (.compare "size" .greater (.int 5)) = .ok set ∧
      (∃ restriction, set.restriction = .ok restriction) ∧
      set.run (.slice ⟨none, none, 0⟩) ⟨Memory.ofItems [], []⟩
        = ((some (.invalidArguments .zeroStep), set), ⟨Memory.ofItems [], []⟩) := by
  obtain ⟨set, made⟩ : ∃ set, (ofFolders Catalog.standard []).exclude
      (.compare "size" .greater (.int 5)) = .ok set := exists_ok_of_toBool (by decide +kernel)
  have reached : Reachable Memory set := .change (.exclude _) (.folders Catalog.standard []) made
  obtain ⟨compiles, -, refuses, -⟩ := validation_eager reached
  exact ⟨set, made, compiles, refuses _ _ (.slice rfl) _⟩

end Sift.QuerySet
