/-
**A search that matches nothing stays one.**

A query set without a predicate matches nothing. No change gives it a predicate again, and no call
that runs it asks the store: it answers as an empty result does, on every path, with rows kept or
without.

* `QuerySet.MatchesNothing.changed`, `QuerySet.MatchesNothing.exists_answer` — a change, and a call
  that runs the set.
* `QuerySet.empty_absorbing` — whatever calls lead to from a search that matches nothing.
-/

import Sift.Catalog.Standard
import Sift.Proofs.QuerySet.Answers
import Sift.Proofs.Slice.Progression
import Sift.Store.Memory

namespace Sift.QuerySet

variable {σ : Type} {catalog : Catalog} {set : QuerySet}

/-! ### Sets that match nothing -/

/-- **A query set that matches nothing**: it has no predicate, and no rows if it keeps any. -/
structure MatchesNothing (catalog : Catalog) (set : QuerySet) : Prop where
  catalog : set.catalog = catalog
  unmatched : set.predicate = none
  rows : ∀ rows ∈ set.cache, rows = []

theorem matchesNothing_empty (set : QuerySet) : MatchesNothing set.catalog set.empty :=
  ⟨rfl, rfl, nofun⟩

/-- **No change makes such a set match anything.** -/
theorem MatchesNothing.changed {after : QuerySet} (nothing : MatchesNothing catalog set)
    (change : Change) (made : set.changed change = .ok after) : MatchesNothing catalog after := by
  cases makes_of_changed made with
  | filter | exclude =>
    refine ⟨nothing.catalog, ?_, nofun⟩
    rw [nothing.unmatched]
    rfl
  | empty => exact ⟨nothing.catalog, rfl, nofun⟩
  | _ => exact ⟨nothing.catalog, nothing.unmatched, nofun⟩

/-- What an empty result says in answer to a call. The predicate of a row is checked all the same,
and so is the step of a slice. -/
def emptyReply (catalog : Catalog) : Run → Except QueryError Reply
  | .fetch => .ok (.rows [])
  | .count => .ok (.count 0)
  | .nonempty => .ok (.truth false)
  | .get predicate =>
    match predicate.resolve catalog with
    | .error error => .error error
    | .ok _ => .error .doesNotExist
  | .index index => .error (.indexOutOfRange index.toInt)
  | .slice part => if part.step = 0 then .error (.invalidArguments .zeroStep) else .ok (.rows [])
  | .delete => .ok (.outcomes [])

theorem rowAt_nil (index : Int64) : rowAt index [] = .error (.indexOutOfRange index.toInt) := by
  unfold rowAt
  cases Slice.resolveIndex? index 0 <;> rfl

/-- An empty group can always be resolved. -/
theorem exists_resolve_of_isEmpty {predicate : Predicate} (empty : predicate.isEmpty = true) :
    ∃ resolved, predicate.resolve catalog = .ok resolved := by
  unfold Predicate.isEmpty at empty
  split at empty
  · exact ⟨_, rfl⟩
  · cases empty

section Calls

variable [Store σ] {session : Session σ}

/-- **Nothing is fetched for such a set.** -/
theorem MatchesNothing.exists_fetch (nothing : MatchesNothing catalog set)
    (session : Session σ) :
    ∃ left, set.fetch session = ((.ok [], left), session) ∧ MatchesNothing catalog left := by
  cases cached : set.cache with
  | some rows =>
    obtain rfl := nothing.rows rows cached
    exact ⟨set, fetch_of_cached cached, nothing⟩
  | none =>
    have pass : set.iterator = .ok .empty := by
      rw [iterator, stream, nothing.unmatched]
    refine ⟨_, fetch_of_stream cached pass, nothing.catalog, nothing.unmatched, ?_⟩
    rintro rows ⟨⟩
    rfl

theorem MatchesNothing.index_eq (nothing : MatchesNothing catalog set) (index : Int64)
    (session : Session σ) :
    set.index index session = ((.error (.indexOutOfRange index.toInt), set), session) := by
  cases cached : set.cache with
  | some rows => rw [index_of_cached cached, nothing.rows rows cached, rowAt_nil]
  | none => exact index_of_none cached nothing.unmatched

theorem MatchesNothing.slice_eq (nothing : MatchesNothing catalog set) {part : Slice}
    (stepping : part.step ≠ 0) (session : Session σ) :
    set.slice part session = ((.ok [], set), session) := by
  cases cached : set.cache with
  | some rows =>
    rw [slice_of_cached stepping cached, nothing.rows rows cached, select,
      Slice.select?_nil stepping]
  | none => exact slice_of_none stepping cached nothing.unmatched

/-- Nothing is removed, whether the targets come from the rows or from a pass of their own. -/
theorem MatchesNothing.delete_eq (nothing : MatchesNothing catalog set) (session : Session σ) :
    set.delete session = ((.ok [], set.all), session) := by
  have targets : set.removalTargets session = (.ok [], session) := by
    by_cases apart : set.cache = none ∨ set.shape ≠ .entities
    · rw [removalTargets_of_fetchIds apart]
      exact fetchIds_of_none nothing.unmatched
    · obtain ⟨present, entities⟩ := not_or.mp apart
      obtain ⟨rows, cached⟩ := Option.ne_none_iff_exists'.mp present
      rw [removalTargets_of_cached cached (not_not.mp entities), nothing.rows rows cached]
      rfl
  exact delete_of_targets targets

/-- To get a row from such a set is refused where the predicate is, and finds nothing otherwise. -/
theorem MatchesNothing.exists_get (nothing : MatchesNothing catalog set) (predicate : Predicate)
    (session : Session σ) :
    ∃ left, set.answer (.get predicate) session
        = ((emptyReply catalog (.get predicate), left), session) ∧
      MatchesNothing catalog left := by
  have resolving := nothing.catalog
  obtain rfl := resolving
  by_cases empty : predicate.isEmpty = true
  · obtain ⟨left, fetched, kept⟩ := nothing.exists_fetch session
    obtain ⟨resolved, run⟩ : ∃ resolved, predicate.resolve set.catalog = .ok resolved :=
      exists_resolve_of_isEmpty empty
    have asked := (get_of_isEmpty empty).trans (onRows_of_run fetched exactlyOne)
    refine ⟨left, ?_, kept⟩
    rw [emptyReply, run]
    exact inForm_of_run .row asked
  · have given : predicate.isEmpty = false := Bool.eq_false_iff.mpr empty
    refine ⟨set, ?_, nothing⟩
    rw [emptyReply]
    cases run : predicate.resolve set.catalog with
    | error error =>
      have refused : set.filter predicate = .error error := by
        rw [filter, run]
        rfl
      exact inForm_of_run .row (get_of_refused given refused)
    | ok resolved =>
      obtain ⟨filtered, narrowed⟩ : ∃ filtered, set.filter predicate = .ok filtered := by
        rw [filter, run]
        exact ⟨_, rfl⟩
      have narrow := nothing.changed (.filter predicate) narrowed
      obtain ⟨left, fetched, -⟩ := narrow.exists_fetch session
      have asked : set.get predicate session = _ := get_of_filter given narrowed
      rw [onRows_of_run fetched] at asked
      exact inForm_of_run .row asked

/-- **Every call of such a set is answered as by an empty result**, with no call to the store. -/
theorem MatchesNothing.exists_answer (nothing : MatchesNothing catalog set) (call : Run)
    (session : Session σ) :
    ∃ left, set.answer call session = ((emptyReply catalog call, left), session) ∧
      MatchesNothing catalog left := by
  obtain ⟨left, fetched, kept⟩ := nothing.exists_fetch session
  cases call with
  | fetch => exact ⟨left, inForm_of_run .rows fetched, kept⟩
  | count => exact ⟨left, inForm_of_run .count (onRows_of_run fetched _), kept⟩
  | nonempty => exact ⟨left, inForm_of_run .truth (onRows_of_run fetched _), kept⟩
  | get predicate => exact nothing.exists_get predicate session
  | index index => exact ⟨set, inForm_of_run .row (nothing.index_eq index session), nothing⟩
  | slice part =>
    refine ⟨set, ?_, nothing⟩
    rw [emptyReply]
    split
    · rename_i zero
      exact inForm_of_run .rows (slice_of_zero zero)
    · rename_i stepping
      exact inForm_of_run .rows (nothing.slice_eq stepping session)
  | delete =>
    have left : MatchesNothing catalog set.all := ⟨nothing.catalog, nothing.unmatched, nofun⟩
    exact ⟨set.all, inForm_of_run .outcomes (nothing.delete_eq session), left⟩

/-- Whatever calls lead to from such a set matches nothing either. -/
theorem MatchesNothing.leads {allowed : Change → Prop} {start : QuerySet}
    (nothing : MatchesNothing catalog start) (leads : Leads σ allowed start set) :
    MatchesNothing catalog set := by
  induction leads with
  | start => exact nothing
  | change change _ _ made before => exact before.changed change made
  | run call session _ before =>
    obtain ⟨left, given, kept⟩ := before.exists_answer call session
    rw [given]
    exact kept

end Calls

/-! ### Absorption -/

/-- **A search that matches nothing absorbs every call.** Whatever changes and calls lead to from
it, any further calls are answered as by an empty result, one by one, with no call to the store. A
pass over the result is the empty one, which gives no row however often it is asked. -/
theorem empty_absorbing [Store σ] {set after : QuerySet}
    (leads : Leads σ (fun _ => True) set.empty after) :
    (∀ (calls : List Run) (session : Session σ), ∃ left,
      after.answers calls session = ((calls.map (emptyReply set.catalog), left), session)) ∧
      after.iterator = .ok .empty ∧
      ∀ session : Session σ, Stream.empty.next session = ((none, .empty), session) ∧
        Stream.empty.collect session = ([], session) := by
  have nothing : MatchesNothing set.catalog after := (matchesNothing_empty set).leads leads
  refine ⟨fun calls session => ?_, ?_, fun session => ⟨rfl, rfl⟩⟩
  · have still : ∀ call ∈ calls, ∀ kept, MatchesNothing set.catalog kept → ∃ reply left,
        kept.answer call session = ((reply, left), session) ∧
          emptyReply set.catalog call = reply ∧ MatchesNothing set.catalog left := by
      intro call _ kept same
      obtain ⟨left, given, kept⟩ := same.exists_answer call session
      exact ⟨_, left, given, rfl, kept⟩
    obtain ⟨replies, left, given, each, -⟩ := exists_answers still nothing
    have listed : calls.map (emptyReply set.catalog) = replies := by
      rw [← List.forall₂_eq_eq_eq, List.forall₂_map_left_iff]
      exact each
    rw [listed]
    exact ⟨left, given⟩
  · rw [iterator, stream, nothing.unmatched]

theorem empty_absorbing_excluded :
    ∃ after, (ofFolders Catalog.standard []).empty.exclude (.compare "size" .greater (.int 5))
        = .ok after ∧
      ∀ session : Session Memory, ∃ left,
        after.answers [.delete, .index 0, .slice ⟨none, none, 0⟩, .count] session
          = (([.ok (.outcomes []), .error (.indexOutOfRange 0),
              .error (.invalidArguments .zeroStep), .ok (.count 0)], left), session) := by
  obtain ⟨after, made⟩ : ∃ after, (ofFolders Catalog.standard []).empty.exclude
      (.compare "size" .greater (.int 5)) = .ok after := exists_ok_of_toBool (by decide +kernel)
  have leads : Leads Memory (fun _ => True) (ofFolders Catalog.standard []).empty after :=
    .change (.exclude _) trivial .start made
  obtain ⟨answered, -⟩ := empty_absorbing leads
  exact ⟨after, made, fun session => answered _ session⟩

end Sift.QuerySet
