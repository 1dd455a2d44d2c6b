/-
**Rows that are kept answer for the whole result.**

Once a query set has its rows, calls for the whole result and for parts of it are answered from
them. What the rows say is written here call by call (`Says`), apart from how it is found. A query
set without rows gets them by one pass, when a call needs the whole result (`UsesAll`); other calls
leave it without rows.

* `QuerySet.Says` — what rows say in answer to a call.
* `QuerySet.says_get_iff`, `QuerySet.says_index_iff`, `QuerySet.says_slice_iff` — it is what is read
  off them.
* `QuerySet.UsesAll.exists_answer` — a call that uses the whole result is answered by its rows.
* `QuerySet.fetch_eq_pass` — a set without rows fetches them by one pass.
* `QuerySet.answer_get_left`, `QuerySet.Valid.answer_index_left`, `QuerySet.Valid.answer_slice_left`
  — calls that leave the set as it was.
* `QuerySet.cache_consistent` — kept rows answer any sequence of calls that use the whole result.
-/

import Sift.Catalog.Standard
import Sift.Proofs.QuerySet.Answers
import Sift.Proofs.QuerySet.InMemory
import Sift.Proofs.QuerySet.Validation
import Sift.Proofs.Slice
import Sift.Proofs.Slice.Progression

namespace Sift.QuerySet

variable {σ : Type} {set : QuerySet} {rows : List (Entry Row)}

/-! ### What rows say -/

/-- **What rows say in answer to a call.** Of a single row that is wanted, they say that there is
none, or which it is, or how many there are. At an index they say the row there, counted from the
end where the index is negative, and that there is none elsewhere. -/
inductive Says (rows : List (Entry Row)) : Run → Except QueryError Reply → Prop
  | fetch : Says rows .fetch (.ok (.rows rows))
  | count : Says rows .count (.ok (.count rows.length))
  | nonempty {truth : Bool} (present : truth = true ↔ rows ≠ []) :
    Says rows .nonempty (.ok (.truth truth))
  | nothing {predicate : Predicate} (none : rows = []) :
    Says rows (.get predicate) (.error .doesNotExist)
  | single {predicate : Predicate} {row : Row} (only : rows = [.ok row]) :
    Says rows (.get predicate) (.ok (.row row))
  | failure {predicate : Predicate} {error : RemoteError} (only : rows = [.error error]) :
    Says rows (.get predicate) (.error (.remote error))
  | several {predicate : Predicate} (many : 1 < rows.length) :
    Says rows (.get predicate) (.error (.multipleObjects rows.length))
  | there {index : Int64} {position : Nat} {row : Row}
    (named : index.toInt = position ∨ index.toInt < 0 ∧ index.toInt + rows.length = position)
    (there : rows[position]? = some (.ok row)) : Says rows (.index index) (.ok (.row row))
  | failureThere {index : Int64} {position : Nat} {error : RemoteError}
    (named : index.toInt = position ∨ index.toInt < 0 ∧ index.toInt + rows.length = position)
    (there : rows[position]? = some (.error error)) :
    Says rows (.index index) (.error (.remote error))
  | outside {index : Int64} (outside : index.toInt < -rows.length ∨ rows.length ≤ index.toInt) :
    Says rows (.index index) (.error (.indexOutOfRange index.toInt))
  | slice {part : Slice} {selected : List (Entry Row)} (selects : part.Selects rows selected) :
    Says rows (.slice part) (.ok (.rows selected))

section Reading

variable {reply : Except QueryError Reply}

/-- The single row that rows say is the one that is read off them. -/
theorem says_get_iff {predicate : Predicate} :
    Says rows (.get predicate) reply ↔ reply = (exactlyOne rows).map .row := by
  constructor
  · intro told
    cases told with
    | nothing only | single only | failure only =>
      subst only
      rfl
    | several many =>
      match rows with
      | first :: second :: rest => rfl
  · rintro rfl
    match rows with
    | [] => exact .nothing rfl
    | [.ok row] => exact .single rfl
    | [.error error] => exact .failure rfl
    | first :: second :: rest => exact .several (by simp)

/-- So is the row at an index. -/
theorem says_index_iff {index : Int64} :
    Says rows (.index index) reply ↔ reply = (rowAt index rows).map .row := by
  unfold rowAt
  constructor
  · intro told
    cases told with
    | there named there | failureThere named there =>
      obtain ⟨inside, -⟩ := List.getElem?_eq_some_iff.mp there
      rw [Slice.resolveIndex?_eq_some_iff.mpr ⟨inside, named⟩, Option.bind_some, there]
      rfl
    | outside beyond =>
      rw [Slice.resolveIndex?_eq_none_iff.mpr beyond]
      rfl
  · rintro rfl
    cases named : Slice.resolveIndex? index rows.length with
    | none => exact .outside (Slice.resolveIndex?_eq_none_iff.mp named)
    | some position =>
      obtain ⟨inside, named⟩ := Slice.resolveIndex?_eq_some_iff.mp named
      have there : rows[position]? = some rows[position] := List.getElem?_eq_getElem inside
      rw [Option.bind_some, there]
      cases entry : rows[position] with
      | ok row => exact .there named (there.trans (congrArg some entry))
      | error error => exact .failureThere named (there.trans (congrArg some entry))

/-- And so are the rows of a slice that fits. -/
theorem says_slice_iff {part : Slice} (stepping : part.step ≠ 0) (fits : part.Fits rows.length) :
    Says rows (.slice part) reply ↔ reply = (select part rows).map .rows := by
  obtain ⟨selected, found, selects⟩ :
      ∃ selected, part.select? rows = some selected ∧ part.Selects rows selected :=
    Slice.select?_of_fits stepping fits
  rw [select, found]
  constructor
  · intro told
    cases told with
    | slice also =>
      rw [also.unique selects]
      rfl
  · rintro rfl
    exact .slice selects

end Reading

/-! ### Calls that use the whole result -/

/-- **The calls that use the whole result.** To get the row of a predicate does so only if the
predicate is empty. An index or a slice does so where the rows are kept or ordered, and where it
counts from the end or walks backwards. -/
inductive UsesAll (set : QuerySet) : Run → Prop
  | fetch : UsesAll set .fetch
  | count : UsesAll set .count
  | nonempty : UsesAll set .nonempty
  | get {predicate : Predicate} (empty : predicate.isEmpty = true) : UsesAll set (.get predicate)
  | index {index : Int64}
    (whole : set.cache ≠ none ∨ set.ordering ≠ [] ∨ index.toInt < 0) : UsesAll set (.index index)
  | slice {part : Slice} (stepping : part.step ≠ 0)
    (whole : set.cache ≠ none ∨ set.ordering ≠ [] ∨ ¬ part.Forward) : UsesAll set (.slice part)

/-- Whether no position that a call computes among so many rows leaves the numbers of 64 bits. -/
def Run.Fits (length : Nat) : Run → Prop
  | .slice part => part.Fits length
  | _ => True

section Answers

variable [Store σ] {session after : Session σ} {left : QuerySet}

/-- A set with rows reads the row at an index off them, and so does one that needs all rows. -/
theorem index_eq_onRows {index : Int64} (present : set.cache ≠ none ∨ set.predicate ≠ none)
    (whole : set.cache ≠ none ∨ set.ordering ≠ [] ∨ index.toInt < 0) :
    set.index index session = set.onRows (rowAt index) session := by
  cases cached : set.cache with
  | some rows =>
    rw [index_of_cached cached, onRows_of_run (fetch_of_cached cached)]
  | none =>
    refine index_of_onRows cached (present.resolve_left (· cached)) fun ⟨front, unordered⟩ => ?_
    rcases whole.resolve_left (· cached) with ordered | back
    · exact ordered unordered
    · exact absurd front (Int.not_le.mpr back)

/-- A slice of a set with rows is read off them, and so is one that needs all rows. -/
theorem slice_eq_onRows {part : Slice} (stepping : part.step ≠ 0)
    (present : set.cache ≠ none ∨ set.predicate ≠ none)
    (whole : set.cache ≠ none ∨ set.ordering ≠ [] ∨ ¬ part.Forward) :
    set.slice part session = set.onRows (select part) session := by
  cases cached : set.cache with
  | some rows =>
    rw [slice_of_cached stepping cached, onRows_of_run (fetch_of_cached cached)]
  | none =>
    refine slice_of_onRows stepping cached (present.resolve_left (· cached))
      fun ⟨forward, unordered⟩ => ?_
    rcases whole.resolve_left (· cached) with ordered | backward
    · exact ordered unordered
    · exact backward (Slice.isForward_iff.mp forward)

/-- **A call that uses the whole result is answered by its rows**, and leaves what fetching them
leaves. -/
theorem UsesAll.exists_answer {call : Run} (uses : set.UsesAll call)
    (present : set.cache ≠ none ∨ set.predicate ≠ none)
    (fetched : set.fetch session = ((.ok rows, left), after)) :
    ∃ reply, set.answer call session = ((reply, left), after) ∧
      (call.Fits rows.length → Says rows call reply) := by
  cases uses with
  | fetch => exact ⟨_, inForm_of_run .rows fetched, fun _ => .fetch⟩
  | count => exact ⟨_, inForm_of_run .count (onRows_of_run fetched _), fun _ => .count⟩
  | nonempty =>
    refine ⟨_, inForm_of_run .truth (onRows_of_run fetched _), fun _ => .nonempty ?_⟩
    simp
  | @get predicate empty =>
    have run := (get_of_isEmpty empty).trans (onRows_of_run fetched exactlyOne)
    exact ⟨_, inForm_of_run .row run, fun _ => says_get_iff.mpr rfl⟩
  | @index index whole =>
    have run := (index_eq_onRows present whole).trans (onRows_of_run fetched (rowAt index))
    exact ⟨_, inForm_of_run .row run, fun _ => says_index_iff.mpr rfl⟩
  | @slice part stepping whole =>
    have run := (slice_eq_onRows stepping present whole).trans (onRows_of_run fetched (select part))
    refine ⟨_, inForm_of_run .rows run, fun fits => ?_⟩
    exact (says_slice_iff stepping fits).mpr rfl

end Answers

/-! ### Fetching, and calls that fetch less -/

/-- One pass over the whole result: a walk from the first item on and without a limit. Its entries
are sorted and made into rows. -/
def pass [Store σ] (set : QuerySet) (restriction : Option Restriction) :
    Query σ (List (Entry Row)) := fun session =>
  let (entries, after) :=
    (Cursor.start (set.request restriction 0 none set.pageSize)).drain session
  ((sortEntries set.sortKeys entries).map (·.map set.plan.2.2.row), after)

section Passes

variable [Store σ]

/-- **A set without rows fetches them by one pass.** -/
theorem fetch_eq_pass {restriction : Option Restriction} (uncached : set.cache = none)
    (matched : set.predicate ≠ none) (asked : set.restriction = .ok restriction)
    (session : Session σ) :
    set.fetch session
      = ((.ok (set.pass restriction session).1,
          { set with cache := some (set.pass restriction session).1 }),
        (set.pass restriction session).2) := by
  have stream : set.iterator = .ok _ :=
    stream_of_restriction matched asked 0 none set.pageSize
  rw [fetch_of_stream uncached stream, Stream.collect_ofRequest]
  rfl

/-- To get the row of a predicate that is not empty leaves the set as it was. -/
theorem answer_get_left {predicate : Predicate} (given : predicate.isEmpty = false)
    (session : Session σ) : (set.answer (.get predicate) session).1.2 = set := by
  show (set.get predicate session).1.2 = set
  cases narrowed : set.filter predicate with
  | error error => rw [get_of_refused given narrowed]
  | ok filtered => rw [get_of_filter given narrowed]

/-- So does an index from the front, where the rows are neither kept nor ordered. -/
theorem Valid.answer_index_left (valid : set.Valid) (uncached : set.cache = none)
    (unordered : set.ordering = []) {index : Int64} (front : 0 ≤ index.toInt)
    (session : Session σ) : (set.answer (.index index) session).1.2 = set := by
  show (set.index index session).1.2 = set
  by_cases unmatched : set.predicate = none
  · rw [index_of_none uncached unmatched]
  · obtain ⟨stream, found⟩ := valid.exists_pass index.toInt.toNat (some 1) 1
    rw [index_of_front uncached unmatched front unordered found]

/-- And so does a forward slice. -/
theorem Valid.answer_slice_left (valid : set.Valid) (uncached : set.cache = none)
    (unordered : set.ordering = []) {part : Slice} (forward : part.Forward)
    (session : Session σ) : (set.answer (.slice part) session).1.2 = set := by
  show (set.slice part session).1.2 = set
  by_cases unmatched : set.predicate = none
  · rw [slice_of_none forward.step_ne_zero uncached unmatched]
  · obtain ⟨selected, after, sliced⟩ : ∃ selected after,
        set.slice part session = ((.ok selected, set), after) :=
      slice_of_forward forward.step_ne_zero uncached unmatched forward.isForward unordered
        valid.exists_pass
    rw [sliced]

end Passes

/-! ### Kept rows -/

/-- **Kept rows answer for the whole result**, whatever the store has become. Once a query set has
rows, any sequence of calls that use the whole result gives what the rows say, with no call to the
store and with the rows kept. Without rows, such a call makes exactly one pass over the whole
result, keeps its rows, and gives what they say. An index from the front and a forward slice of a
set without ordering keep no rows, and to get the row of a predicate that is not empty leaves the
set as it was in any case. -/
theorem cache_consistent [Store σ] (set : QuerySet) :
    (∀ rows, set.cache = some rows → ∀ (calls : List Run) (session : Session σ),
      (∀ call ∈ calls, set.UsesAll call ∧ call.Fits rows.length) →
        ∃ replies, set.answers calls session = ((replies, set), session) ∧
          List.Forall₂ (Says rows) calls replies) ∧
      (Reachable σ set → set.cache = none → set.predicate ≠ none →
        ∃ restriction, set.restriction = .ok restriction ∧
          ∀ (session : Session σ) (call : Run), set.UsesAll call →
            ∃ rows after reply, set.pass restriction session = (rows, after) ∧
              set.answer call session = ((reply, { set with cache := some rows }), after) ∧
              (call.Fits rows.length → Says rows call reply)) ∧
      (Reachable σ set → set.cache = none → set.ordering = [] → ∀ session : Session σ,
        (∀ index : Int64, 0 ≤ index.toInt → (set.answer (.index index) session).1.2 = set) ∧
          ∀ part : Slice, part.Forward → (set.answer (.slice part) session).1.2 = set) ∧
      ∀ predicate : Predicate, predicate.isEmpty = false → ∀ session : Session σ,
        (set.answer (.get predicate) session).1.2 = set := by
  refine ⟨fun rows cached calls session covered => ?_, fun reached uncached matched => ?_,
    fun reached uncached unordered session => ?_, fun predicate given => answer_get_left given⟩
  · have still : ∀ call ∈ calls, ∀ kept, kept = set → ∃ reply left,
        kept.answer call session = ((reply, left), session) ∧ Says rows call reply ∧
          left = set := by
      rintro call member kept rfl
      obtain ⟨uses, fits⟩ := covered call member
      have present : kept.cache ≠ none := fun uncached => nomatch cached.symm.trans uncached
      have fetched : kept.fetch session = ((.ok rows, kept), session) := fetch_of_cached cached
      obtain ⟨reply, given, told⟩ := uses.exists_answer (.inl present) fetched
      exact ⟨reply, kept, given, told fits, rfl⟩
    obtain ⟨replies, left, given, each, rfl⟩ := exists_answers still rfl
    exact ⟨replies, given, each⟩
  · obtain ⟨restriction, asked⟩ := reached.valid.exists_restriction
    refine ⟨restriction, asked, fun session call uses => ?_⟩
    obtain ⟨reply, given, told⟩ :=
      uses.exists_answer (.inr matched) (fetch_eq_pass uncached matched asked session)
    exact ⟨_, _, reply, rfl, given, told⟩
  · have valid := reached.valid
    exact ⟨fun index front => valid.answer_index_left uncached unordered front session,
      fun part forward => valid.answer_slice_left uncached unordered forward session⟩

/-- Three items from the largest down, with a failure behind them. A slice backwards fetches and keeps
them all, and from then on they answer. Without an ordering, an index, a slice forwards and a further
condition keep nothing. -/
theorem cache_consistent_largestFirst :
    let item (id : String) (size : Int64) : Item := ⟨⟨id, none⟩, [("size", .int size)]⟩
    let row (id : String) (size : Int64) : Entry Row := .ok (.item (item id size))
    let failure : RemoteError := .itemNotFound "c"
    let entries : List (Entry Item) :=
      [.ok (item "a" 1), .error failure, .ok (item "b" 9), .ok (item "d" 4)]
    let rows : List (Entry Row) := [row "b" 9, row "d" 4, row "a" 1, .error failure]
    let set := ofFolders Catalog.standard []
    let ordered : QuerySet := { set with ordering := [⟨.ofField "size", true⟩] }
    let kept : QuerySet := { ordered with cache := some rows }
    set.orderBy ["-size"] = .ok ordered ∧
      (∃ after, ordered.answer (.slice ⟨none, none, -2⟩) ⟨Memory.mk entries none, []⟩
        = ((.ok (.rows [.error failure, row "d" 4]), kept), after)) ∧
      (∀ session : Session Memory,
        kept.answers [.count, .index (-2), .index (-1), .index 4, .get .empty,
            .slice ⟨some 0, some (-1), 2⟩] session
          = (([.ok (.count 4), .ok (.row (.item (item "a" 1))), .error (.remote failure),
              .error (.indexOutOfRange 4), .error (.multipleObjects 4),
              .ok (.rows [row "b" 9, row "a" 1])], kept), session)) ∧
      ∀ session : Session Memory, (set.answer (.index 0) session).1.2 = set ∧
        (set.answer (.slice ⟨some 1, none, 2⟩) session).1.2 = set ∧
        (set.answer (.get (.compare "size" .greater (.int 5))) session).1.2 = set := by
  intro item row failure entries rows set ordered kept
  have start : Reachable Memory set := .folders _ _
  have keys : ["-size"].mapM (SortKey.ofText Catalog.standard)
      = .ok [⟨.ofField "size", true⟩] := eq_ok_of_toOption (by decide +kernel)
  have made : set.orderBy ["-size"] = .ok ordered := bind_eq_ok_iff.mpr ⟨_, keys, rfl⟩
  have short {part : Slice} (near : 4 + part.step.toInt ≤ Int64.maxValue.toInt + 1) :
      part.Fits rows.length := Slice.fits_of_le near
  have selected {part : Slice} {positions : List Nat}
      (found : part.positions? rows.length = some positions) :
      select part rows = .ok (positions.filterMap fun position => rows[position]?) := by
    rw [select, Slice.select?, found]
    rfl
  refine ⟨made, ?_, fun session => ?_, fun session => ?_⟩
  · have reached : Reachable Memory ordered := .change (.orderBy _) start made
    have matched : ordered.predicate ≠ none := Option.some_ne_none _
    obtain ⟨restriction, asked, passes⟩ := (cache_consistent ordered).2.1 reached rfl matched
    obtain rfl : restriction = none := Except.ok.inj (asked.symm.trans rfl)
    obtain ⟨_, after, reply, passed, given, told⟩ :=
      passes ⟨Memory.mk entries none, []⟩ (.slice ⟨none, none, -2⟩)
        (.slice (by decide) (.inr (.inl (List.cons_ne_nil _ _))))
    -- What a pass finds is what is fetched, and that is known over a store in memory.
    have sorted : ordered.sortedRows (Memory.mk entries none) none = rows := rfl
    have fetched : (ordered.fetch ⟨Memory.mk entries none, []⟩).1 = (.ok rows, kept) := by
      rw [(fetch_memory rfl matched asked rfl (by decide) (by decide : 1 ≤ 100)).1]
      exact congrArg (fun rows => (Except.ok rows, { ordered with cache := some rows })) sorted
    rw [fetch_eq_pass rfl matched asked, passed] at fetched
    obtain rfl : _ = rows := Except.ok.inj (congrArg Prod.fst fetched)
    have fits : Slice.Fits ⟨none, none, -2⟩ rows.length := short (by decide)
    have backwards : Slice.positions? ⟨none, none, -2⟩ rows.length = some [3, 1] := by
      decide +kernel
    refine ⟨after, ?_⟩
    rw [given, (says_slice_iff (by decide) fits).mp (told fits), selected backwards]
    rfl
  · have present : kept.cache ≠ none := Option.some_ne_none _
    have fits : Slice.Fits ⟨some 0, some (-1), 2⟩ rows.length := short (by decide)
    have forwards : Slice.positions? ⟨some 0, some (-1), 2⟩ rows.length = some [0, 2] := by
      decide +kernel
    have covered : ∀ call ∈ [Run.count, .index (-2), .index (-1), .index 4, .get .empty,
        .slice ⟨some 0, some (-1), 2⟩], kept.UsesAll call ∧ call.Fits rows.length := by
      simp only [List.forall_mem_cons, List.not_mem_nil, false_imp_iff, implies_true, and_true]
      exact ⟨⟨.count, trivial⟩, ⟨.index (.inl present), trivial⟩, ⟨.index (.inl present), trivial⟩,
        ⟨.index (.inl present), trivial⟩, ⟨.get rfl, trivial⟩,
        .slice (by decide) (.inl present), fits⟩
    obtain ⟨replies, given, each⟩ := (cache_consistent kept).1 rows rfl _ session covered
    rw [given]
    rcases each with
      _ | ⟨number, _ | ⟨third, _ | ⟨last, _ | ⟨beyond, _ | ⟨single, _ | ⟨part, ⟨⟩⟩⟩⟩⟩⟩⟩
    cases number
    rw [says_index_iff.mp third, says_index_iff.mp last, says_index_iff.mp beyond,
      says_get_iff.mp single, (says_slice_iff (by decide) fits).mp part, selected forwards]
    rfl
  · obtain ⟨-, -, leaves, narrows⟩ := @cache_consistent Memory _ set
    refine ⟨(leaves start rfl rfl session).1 0 (by decide), ?_, narrows _ rfl session⟩
    refine (leaves start rfl rfl session).2 _ ⟨by decide, fun start given => ?_, fun _ given => ?_⟩
    · cases given
      decide
    · cases given

end Sift.QuerySet
