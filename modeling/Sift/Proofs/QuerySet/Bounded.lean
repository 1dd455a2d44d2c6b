/-
**A part of a result that is fetched alone is that part of the whole.**

Without an ordering, a row from the front and a forward slice are not taken from the whole result:
only the stretch that they need is asked for (`QuerySet.index`, `QuerySet.slice`). Over a store in
memory that makes no difference. The whole result is a list of rows (`QuerySet.wholeRows`), every
walk over a stretch gives that stretch of the list (`QuerySet.collect_pages`), and what is selected
from the stretch is what is selected from the list.
-/

import Sift.Catalog.Standard
import Sift.Proofs.QuerySet.Steps
import Sift.Proofs.Slice
import Sift.Proofs.Store.Paging

namespace Sift.QuerySet

/-- The rows of the whole result, where the query set has a restriction and no ordering. -/
def wholeRows (set : QuerySet) (memory : Memory) (restriction : Option Restriction) :
    List (Entry Row) :=
  (memory.served (set.request restriction 0 none set.pageSize)).map fun entry =>
    entry.map set.plan.2.2.row

/-- A pass over part of the result, page by page. -/
def pagesOf (set : QuerySet) (restriction : Option Restriction) (offset : Nat)
    (maxItems : Option Nat) (pageSize : Nat) : Stream :=
  ⟨.pages (Cursor.start (set.request restriction offset maxItems pageSize)), set.plan.2.2⟩

/-- The row at an index from the front. -/
theorem rowAt_of_nonneg {index : Int64} (front : 0 ≤ index.toInt) (rows : List (Entry Row)) :
    rowAt index rows
      = match rows[index.toInt.toNat]? with
        | some entry => rowOf entry
        | none => .error (.indexOutOfRange index.toInt) := by
  have place : (Slice.resolveIndex? index rows.length).bind (rows[·]?)
      = rows[index.toInt.toNat]? := by
    have notNegative : ¬ index.toInt < 0 := by omega
    simp only [Slice.resolveIndex?, notNegative, if_false]
    split
    · rfl
    · rename_i outside
      refine (List.getElem?_eq_none_iff.mpr ?_).symm
      simp only [Bool.and_eq_true, decide_eq_true_eq, not_and] at outside
      have behind := outside front
      omega
  exact congrArg (fun found : Option (Entry Row) => match found with
    | some entry => rowOf entry
    | none => .error (.indexOutOfRange index.toInt)) place

/-! ### Passes over a stretch -/

section Passes

variable {set : QuerySet} {predicate : Predicate} {restriction : Option Restriction}

/-- Without an ordering a pass takes its rows from the pages as they come. -/
theorem stream_eq (set : QuerySet) (unordered : set.ordering = [])
    (known : set.predicate = some predicate)
    (compiled : predicate.compile set.catalog = .ok restriction) (offset : Nat)
    (maxItems : Option Nat) (pageSize : Nat) :
    set.stream offset maxItems pageSize
      = .ok (set.pagesOf restriction offset maxItems pageSize) := by
  have noKeys : set.sortKeys = [] := by rw [sortKeys, unordered, List.map_nil]
  have matched : set.predicate ≠ none := by rw [known]; exact Option.some_ne_none predicate
  rw [stream_of_restriction matched ((restriction_of_some known).trans compiled), noKeys]
  rfl

variable {session : Session Memory}

/-- What a request for part of the result is answered with, as rows, is part of the whole. -/
theorem map_row_portion (set : QuerySet) (memory : Memory) (restriction : Option Restriction)
    (offset : Nat) (maxItems : Option Nat) (pageSize : Nat) :
    let request := set.request restriction offset maxItems pageSize
    ((request.portion (memory.served request)).map fun entry =>
        entry.map set.plan.2.2.row)
      = request.portion (set.wholeRows memory restriction) :=
  Request.map_portion _ _ _

/-- **All rows of a pass over a part of the result are that part of the whole.** -/
theorem collect_pages (set : QuerySet) (restriction : Option Restriction)
    (steady : session.store.pageFailure = none)
    (addressable : session.store.entries.length < UInt64.size) (offset : Nat)
    (maxItems : Option Nat) {pageSize : Nat} (size : 1 ≤ pageSize) :
    ((set.pagesOf restriction offset maxItems pageSize).collect session).1
      = (set.request restriction offset maxItems pageSize).portion
          (set.wholeRows session.store restriction) := by
  let request := set.request restriction offset maxItems pageSize
  have serves : Store.Serves request (session.store.served request) session.store :=
    Memory.serves steady addressable size
  have entries := Cursor.drain_start serves
  rw [← map_row_portion set session.store restriction offset maxItems pageSize, ← entries]
  rfl

/-- **The first row of a pass over a part of the result is the first of that part.** -/
theorem next_pages (set : QuerySet) (restriction : Option Restriction)
    (steady : session.store.pageFailure = none)
    (addressable : session.store.entries.length < UInt64.size) (offset : Nat)
    (maxItems : Option Nat) {pageSize : Nat} (size : 1 ≤ pageSize) :
    ((set.pagesOf restriction offset maxItems pageSize).next session).1.1
      = ((set.request restriction offset maxItems pageSize).portion
          (set.wholeRows session.store restriction)).head? := by
  let request := set.request restriction offset maxItems pageSize
  have serves : Store.Serves request (session.store.served request) session.store :=
    Memory.serves steady addressable size
  have given := (Cursor.next_spec (Cursor.start request) serves).1
  rw [Cursor.ahead_start] at given
  rw [← map_row_portion set session.store restriction offset maxItems pageSize, List.head?_map,
    ← given]
  rfl

/-- A page for a slice that selects anything has room for an item. -/
theorem one_le_pageSize {most : Option Nat} (something : most ≠ some 0) {pageSize : Nat}
    (size : 1 ≤ pageSize) : 1 ≤ (most.map (min · pageSize)).getD pageSize := by
  cases most with
  | none => exact size
  | some most =>
    have wanted : most ≠ 0 := fun zero => something (congrArg some zero)
    exact Nat.le_min.mpr ⟨Nat.one_le_iff_ne_zero.mpr wanted, size⟩

/-! ### The whole result and parts of it -/

variable (unordered : set.ordering = []) (known : set.predicate = some predicate)
  (compiled : predicate.compile set.catalog = .ok restriction)
  (steady : session.store.pageFailure = none)
  (addressable : session.store.entries.length < UInt64.size) (size : 1 ≤ set.pageSize)

include unordered known compiled steady addressable size

/-- Fetching gives the whole result, and keeps it. -/
theorem fetch_all :
    (set.all.fetch session).1
      = (.ok (set.wholeRows session.store restriction),
          { set with cache := some (set.wholeRows session.store restriction) }) := by
  have pass : set.all.iterator = .ok (set.pagesOf restriction 0 none set.pageSize) :=
    stream_eq set.all unordered known compiled 0 none _
  have rows : ((set.pagesOf restriction 0 none set.pageSize).collect session).1
      = set.wholeRows session.store restriction :=
    collect_pages set restriction steady addressable 0 none size
  rw [fetch_of_stream rfl pass, rows]
  rfl

/-- A forward slice is taken from the stretch of the whole result that it needs. -/
theorem slice_all {slice : Slice} (forward : slice.Forward) :
    (set.all.slice slice session).1.1
      = .ok (Slice.everyNth slice.step.toInt.toNat 0
          (slice.stretch (set.wholeRows session.store restriction))) := by
  have fast : (slice.isForward && set.all.ordering.isEmpty) = true := by
    rw [forward.isForward, all_ordering, unordered]
    rfl
  unfold QuerySet.slice
  simp only [forward.step_ne_zero, if_false, all_cache, all_predicate, known, Option.isNone_some,
    Bool.false_eq_true, fast, if_true]
  rw [stream_eq set.all unordered known compiled]
  split
  · rename_i empty
    have nothing : slice.most? = some 0 := empty
    have none : slice.stretch (set.wholeRows session.store restriction) = [] := by
      rw [Slice.stretch, nothing]
      exact List.take_zero
    rw [none]
    rfl
  · rename_i something
    have rows := collect_pages set restriction steady addressable slice.first slice.most?
      (one_le_pageSize something size)
    exact congrArg (fun rows => Except.ok (Slice.everyNth slice.step.toInt.toNat 0 rows)) rows

omit size in
/-- A row from the front is taken from a request of its own. -/
theorem index_all {index : Int64} (front : 0 ≤ index.toInt) :
    (set.all.index index session).1.1
      = rowAt index (set.wholeRows session.store restriction) := by
  have matched : set.all.predicate ≠ none := by
    rw [all_predicate, known]
    exact Option.some_ne_none predicate
  let first := set.pagesOf restriction index.toInt.toNat (some 1) 1
  have pass : set.all.stream index.toInt.toNat (some 1) 1 = .ok first :=
    stream_eq set.all unordered known compiled _ _ _
  have row : (first.next session).1.1
      = (set.wholeRows session.store restriction)[index.toInt.toNat]? := by
    refine (next_pages set restriction steady addressable _ _ (Nat.le_refl 1)).trans ?_
    show (((set.wholeRows session.store restriction).drop _).take 1).head? = _
    rw [List.head?_take, if_neg Nat.one_ne_zero, List.head?_drop]
    rfl
  have answered : set.all.index index session
      = ((match (first.next session).1.1 with
          | some entry => rowOf entry
          | none => .error (.indexOutOfRange index.toInt), set.all), (first.next session).2) :=
    index_of_front rfl matched front unordered pass
  rw [rowAt_of_nonneg front, ← row]
  exact congrArg (·.1.1) answered

end Passes

/-! ### Results without requests -/

section NoRequests

variable {set : QuerySet} {session : Session Memory}

/-- Where nothing matches, nothing is fetched. -/
theorem fetch_all_of_none (unmatched : set.predicate = none) :
    set.all.fetch session = ((.ok [], { set with cache := some [] }), session) := by
  have pass : set.all.iterator = .ok .empty := by
    show set.stream 0 none set.pageSize = _
    rw [stream, unmatched]
  rw [fetch_of_stream rfl pass]
  rfl

theorem slice_all_of_none (unmatched : set.predicate = none) {slice : Slice}
    (forward : slice.Forward) : (set.all.slice slice session).1.1 = .ok [] := by
  rw [slice_of_none forward.step_ne_zero rfl (set.all_predicate.trans unmatched)]

theorem index_all_of_none (unmatched : set.predicate = none) {index : Int64} :
    (set.all.index index session).1.1 = .error (.indexOutOfRange index.toInt) := by
  rw [index_of_none rfl (set.all_predicate.trans unmatched)]

/-- Where the predicate does not compile, nothing is fetched or kept. -/
theorem fetch_all_of_error {predicate : Predicate} {error : QueryError}
    (known : set.predicate = some predicate)
    (failed : predicate.compile set.catalog = .error error) :
    set.all.fetch session = ((.error error, set.all), session) := by
  refine fetch_of_error rfl ?_
  show set.stream 0 none set.pageSize = _
  rw [stream, known]
  show (predicate.compile set.catalog >>= _) = _
  rw [failed]
  rfl

end NoRequests

/-! ### The fast paths -/

/-- **A part of a result that is fetched alone is that part of the whole.** Over a store in memory
whose pages do not fail, and where positions are numbers of 64 bits, a query set without ordering
gives for a forward slice what the slice selects from the fetched rows, and at an index from the
front what the fetched rows have there: a row, the failure in its place, or the error of an index
out of range. -/
theorem bounded_eq_whole {set : QuerySet} {session : Session Memory}
    (steady : session.store.pageFailure = none)
    (addressable : session.store.entries.length < UInt64.size) (unordered : set.ordering = [])
    (size : 1 ≤ set.pageSize) :
    (∀ restriction, set.restriction = .ok restriction → ∃ rows,
      (set.all.fetch session).1 = (.ok rows, { set with cache := some rows })) ∧
    (∀ slice : Slice, slice.Forward → ∀ rows selected, (set.all.fetch session).1.1 = .ok rows →
      slice.select? rows = some selected → (set.all.slice slice session).1.1 = .ok selected) ∧
    ∀ index : Int64, 0 ≤ index.toInt →
      (set.all.index index session).1.1
        = ((set.all.fetch session).1.2.index index (set.all.fetch session).2).1.1 := by
  rcases Option.eq_none_or_eq_some set.predicate with unmatched | ⟨predicate, known⟩
  · rw [fetch_all_of_none unmatched]
    refine ⟨fun _ _ => ⟨[], rfl⟩, fun slice forward rows selected fetched given => ?_,
      fun index front => ?_⟩
    · cases fetched
      rw [Slice.select_forward forward given, Slice.stretch_nil]
      exact slice_all_of_none unmatched forward
    · rw [index_all_of_none unmatched]
      exact (rowAt_of_nonneg front []).symm
  · cases compiled : predicate.compile set.catalog with
    | error error =>
      rw [fetch_all_of_error known compiled]
      refine ⟨fun restriction valid => ?_, fun _ _ _ _ fetched => (nomatch fetched), fun _ _ => rfl⟩
      rw [QuerySet.restriction, known] at valid
      exact nomatch compiled.symm.trans valid
    | ok restriction =>
      have whole := fetch_all unordered known compiled steady addressable size
      refine ⟨fun _ _ => ⟨_, whole⟩, fun slice forward rows selected fetched given => ?_,
        fun index front => ?_⟩
      · rw [whole] at fetched
        cases fetched
        rw [Slice.select_forward forward given]
        exact slice_all unordered known compiled steady addressable size forward
      · rw [whole, index_all unordered known compiled steady addressable front]
        rfl

theorem bounded_eq_whole_everySecond :
    let set := QuerySet.ofFolders Catalog.standard []
    let item (id : String) : Item := ⟨⟨id, none⟩, []⟩
    let memory : Memory :=
      ⟨[.ok (item "a"), .error (.itemNotFound "b"), .ok (item "c"), .ok (item "d")], none⟩
    (set.all.slice ⟨some 1, none, 2⟩ ⟨memory, []⟩).1.1
        = .ok [.error (.itemNotFound "b"), .ok (.item (item "d"))] ∧
      (set.all.index 1 ⟨memory, []⟩).1.1 = .error (.remote (.itemNotFound "b")) := by
  intro set item memory
  have compiled : Predicate.empty.compile set.catalog = .ok none := rfl
  let session : Session Memory := ⟨memory, []⟩
  have steady : session.store.pageFailure = none := rfl
  have addressable : session.store.entries.length < UInt64.size := by decide
  have unordered : set.ordering = [] := rfl
  have size : 1 ≤ set.pageSize := by decide
  have fetched := fetch_all unordered rfl compiled steady addressable size
  obtain ⟨-, slices, indices⟩ := bounded_eq_whole steady addressable unordered size
  constructor
  · have forward : Slice.Forward ⟨some 1, none, 2⟩ := by
      refine ⟨by decide, fun start given => ?_, fun stop given => (nomatch given)⟩
      cases given
      decide
    have positions : Slice.positions? ⟨some 1, none, 2⟩ 4 = some [1, 3] := by
      decide +kernel
    refine slices ⟨some 1, none, 2⟩ forward _ _ (congrArg Prod.fst fetched) ?_
    exact (congrArg (Option.map _) positions).trans rfl
  · rw [indices 1 (by decide), fetched]
    rfl

end Sift.QuerySet
