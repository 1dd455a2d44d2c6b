/-
**What each call does, case by case.**

The calls that run a query set branch on what is kept, on the predicate and on the ordering. Each
equation here is one such branch, with the answer, the query set afterwards and what has become of
the session. They hold over any store.
-/

import Sift.QuerySet.Execution

namespace Sift.QuerySet

/-- What follows a computation goes on with its result, in the session that it leaves. -/
theorem bind_of_run {σ α β : Type} {first : Query σ α} {second : α → Query σ β} {result : α}
    {session after : Session σ} (run : first session = (result, after)) :
    (first >>= second) session = second result after := by
  show second (first session).1 (first session).2 = _
  rw [run]

/-! ### The request -/

section Request

variable {set : QuerySet} {predicate : Predicate} {asking : Option Restriction}

theorem plan_of_whole (whole : set.projection = none) (entities : set.shape = .entities) :
    set.plan = (.all, none, .whole .entities) := by
  rw [plan, whole, entities]

theorem restriction_of_some (known : set.predicate = some predicate) :
    set.restriction = predicate.compile set.catalog := by
  unfold restriction
  rw [known]

/-- A pass over part of the result is one over the pages of its request. -/
theorem stream_of_restriction (matched : set.predicate ≠ none)
    (asked : set.restriction = .ok asking) (offset : Nat) (maxItems : Option Nat)
    (pageSize : Nat) :
    set.stream offset maxItems pageSize
      = .ok (.ofRequest (set.request asking offset maxItems pageSize) set.sortKeys
          set.plan.2.2) := by
  obtain ⟨predicate, known⟩ := Option.ne_none_iff_exists'.mp matched
  rw [restriction_of_some known] at asked
  rw [stream, known]
  show (predicate.compile set.catalog >>= _) = _
  rw [asked]
  rfl

end Request

variable {σ α : Type} [Store σ] {set : QuerySet} {session : Session σ} {rows : List (Entry Row)}
  {stream : Stream}

/-! ### The whole result -/

theorem fetch_of_cached (cached : set.cache = some rows) :
    set.fetch session = ((.ok rows, set), session) := by
  unfold fetch
  rw [cached]
  rfl

theorem fetch_of_stream (uncached : set.cache = none) (pass : set.iterator = .ok stream) :
    set.fetch session
      = ((.ok (stream.collect session).1, { set with cache := some (stream.collect session).1 }),
          (stream.collect session).2) := by
  unfold fetch
  rw [uncached, pass]
  rfl

theorem fetch_of_error {error : QueryError} (uncached : set.cache = none)
    (failed : set.iterator = .error error) : set.fetch session = ((.error error, set), session) := by
  unfold fetch
  rw [uncached, failed]
  rfl

theorem onRows_of_fetch {after : QuerySet} (answer : List (Entry Row) → Except QueryError α)
    (fetched : (set.fetch session).1 = (.ok rows, after)) :
    set.onRows answer session = ((answer rows, after), (set.fetch session).2) := by
  show ((((set.fetch session).1.1).bind answer, (set.fetch session).1.2), (set.fetch session).2) = _
  rw [fetched]
  rfl

theorem get_of_isEmpty {predicate : Predicate} (empty : predicate.isEmpty = true) :
    set.get predicate session = set.onRows exactlyOne session := by
  unfold QuerySet.get
  rw [if_pos empty]

theorem get_of_refused {predicate : Predicate} {error : QueryError}
    (given : predicate.isEmpty = false) (refused : set.filter predicate = .error error) :
    set.get predicate session = ((.error error, set), session) := by
  unfold QuerySet.get
  rw [given, refused]
  rfl

theorem get_of_filter {predicate : Predicate} {filtered : QuerySet}
    (given : predicate.isEmpty = false) (narrowed : set.filter predicate = .ok filtered) :
    set.get predicate session
      = (((filtered.onRows exactlyOne session).1.1, set),
          (filtered.onRows exactlyOne session).2) := by
  unfold QuerySet.get
  rw [given, narrowed]
  rfl

/-! ### Parts of the result -/

theorem index_of_cached {index : Int64} (cached : set.cache = some rows) :
    set.index index session = ((rowAt index rows, set), session) := by
  unfold QuerySet.index
  rw [cached]
  rfl

theorem index_of_none {index : Int64} (uncached : set.cache = none)
    (unmatched : set.predicate = none) :
    set.index index session = ((.error (.indexOutOfRange index.toInt), set), session) := by
  unfold QuerySet.index
  rw [uncached, unmatched]
  rfl

theorem index_of_front {index : Int64} (uncached : set.cache = none)
    (matched : set.predicate ≠ none) (front : 0 ≤ index.toInt) (unordered : set.ordering = [])
    (pass : set.stream index.toInt.toNat (some 1) 1 = .ok stream) :
    set.index index session
      = ((match (stream.next session).1.1 with
          | some entry => rowOf entry
          | none => .error (.indexOutOfRange index.toInt), set), (stream.next session).2) := by
  obtain ⟨predicate, known⟩ := Option.ne_none_iff_exists'.mp matched
  unfold QuerySet.index
  rw [uncached, known, unordered, decide_eq_true front, pass]
  show ((match (stream.next session).1.1 with
    | some entry => pure (rowOf entry, set)
    | none => pure (.error (.indexOutOfRange index.toInt), set) : Query σ (Answer Row))
      (stream.next session).2) = _
  cases (stream.next session).1.1 <;> rfl

theorem index_of_onRows {index : Int64} (uncached : set.cache = none)
    (matched : set.predicate ≠ none) (whole : ¬ (0 ≤ index.toInt ∧ set.ordering = [])) :
    set.index index session = set.onRows (rowAt index) session := by
  obtain ⟨predicate, known⟩ := Option.ne_none_iff_exists'.mp matched
  have slow : (decide (0 ≤ index.toInt) && set.ordering.isEmpty) = false := by
    simpa using whole
  unfold QuerySet.index
  rw [uncached, known, slow]
  rfl

theorem slice_of_zero {part : Slice} (zero : part.step = 0) :
    set.slice part session = ((.error (.invalidArguments .zeroStep), set), session) := by
  unfold QuerySet.slice
  rw [if_pos zero]
  rfl

theorem slice_of_cached {part : Slice} (stepping : part.step ≠ 0) (cached : set.cache = some rows) :
    set.slice part session = ((select part rows, set), session) := by
  unfold QuerySet.slice
  rw [if_neg stepping, cached]
  rfl

theorem slice_of_none {part : Slice} (stepping : part.step ≠ 0) (uncached : set.cache = none)
    (unmatched : set.predicate = none) :
    set.slice part session = ((.ok [], set), session) := by
  unfold QuerySet.slice
  rw [if_neg stepping, uncached, unmatched]
  rfl

/-- A forward slice of a set without ordering gives rows and keeps none. -/
theorem slice_of_forward {part : Slice} (stepping : part.step ≠ 0) (uncached : set.cache = none)
    (matched : set.predicate ≠ none) (forward : part.isForward = true)
    (unordered : set.ordering = [])
    (passes : ∀ offset maxItems pageSize, ∃ stream,
      set.stream offset maxItems pageSize = .ok stream) :
    ∃ selected after, set.slice part session = ((.ok selected, set), after) := by
  obtain ⟨predicate, known⟩ := Option.ne_none_iff_exists'.mp matched
  unfold QuerySet.slice
  rw [if_neg stepping, uncached, known, unordered, forward]
  simp only [Option.isNone_some, List.isEmpty_nil, Bool.and_self, Bool.false_eq_true, if_false,
    if_true]
  split
  · exact ⟨[], session, rfl⟩
  · obtain ⟨stream, pass⟩ := passes _ _ _
    rw [pass]
    exact ⟨_, _, rfl⟩

theorem slice_of_onRows {part : Slice} (stepping : part.step ≠ 0) (uncached : set.cache = none)
    (matched : set.predicate ≠ none) (whole : ¬ (part.isForward = true ∧ set.ordering = [])) :
    set.slice part session = set.onRows (select part) session := by
  obtain ⟨predicate, known⟩ := Option.ne_none_iff_exists'.mp matched
  have slow : (part.isForward && set.ordering.isEmpty) = false := by
    simpa using whole
  unfold QuerySet.slice
  rw [if_neg stepping, uncached, known, slow]
  rfl

/-! ### Removal -/

theorem fetchIds_of_none (unmatched : set.predicate = none) :
    set.fetchIds session = (.ok [], session) := by
  unfold fetchIds
  rw [unmatched]
  rfl

theorem fetchIds_of_restriction {asking : Option Restriction} (matched : set.predicate ≠ none)
    (asked : set.restriction = .ok asking) :
    set.fetchIds session
      = (.ok (((Cursor.start (set.idRequest asking)).drain session).1.map (·.map Item.id)),
          ((Cursor.start (set.idRequest asking)).drain session).2) := by
  obtain ⟨predicate, known⟩ := Option.ne_none_iff_exists'.mp matched
  rw [restriction_of_some known] at asked
  unfold fetchIds
  rw [known]
  simp only [asked]
  rfl

theorem removalTargets_of_cached (cached : set.cache = some rows)
    (entities : set.shape = .entities) :
    set.removalTargets session = (.ok (rowIds rows), session) := by
  unfold removalTargets
  rw [cached, entities]
  rfl

theorem removalTargets_of_fetchIds (apart : set.cache = none ∨ set.shape ≠ .entities) :
    set.removalTargets session = set.fetchIds session := by
  unfold removalTargets
  cases cached : set.cache with
  | none => rfl
  | some rows =>
    have other : set.shape ≠ .entities := by
      rcases apart with uncached | other
      · rw [cached] at uncached
        cases uncached
      · exact other
    cases shape : set.shape with
    | entities => exact absurd shape other
    | _ => rfl

/-- What is removed is what the targets that are identities stand for, in one call if there are
any. -/
theorem delete_of_targets {targets : List (Entry ItemId)} {after : Session σ}
    (known : set.removalTargets session = (.ok targets, after)) :
    set.delete session =
      if loadedIds targets = [] then ((.ok (assignOutcomes targets []), set.all), after)
      else ((.ok (assignOutcomes targets (Session.remove (loadedIds targets) after).1), set.all),
        (Session.remove (loadedIds targets) after).2) := by
  have run : set.delete session
      = (do
          let outcomes ← if (loadedIds targets).isEmpty then pure []
            else Session.remove (loadedIds targets)
          return (.ok (assignOutcomes targets outcomes), set.all) :
        Query σ (Answer (List (Entry Unit)))) after := by
    unfold QuerySet.delete
    exact bind_of_run known
  rw [run]
  cases ids : loadedIds targets with
  | nil => rfl
  | cons id rest => rfl

end Sift.QuerySet
