/-
**Rows in the order of their values.**

What an ordering asks for is said here of the values that entries have. One of two entries comes
below the other under a path if its value is below the other value, or if it has none and the other
has one: a failed entry has no values, and a null is none. A key puts the lower entry first, or
last if it is descending, and several keys put that entry first which the first of them to decide
puts first (`Before`). Entries on which no key decides tie.

Values are compared within a kind: booleans, whole numbers, texts, moments with a zone, moments
without one, or days (`Value.Below`). Where each key finds values of one kind, entries have one
stable order, and sorting gives it. To turn every key around turns the order around if nothing ties,
and to turn them around again gives the order back.

* `compareEntries_eq_lt_iff`, `compareEntries_eq_iff` — how entries compare, said of their values.
* `stableOrder_iff` — the one stable order of some entries.
* `sortEntries_turned` — the order by keys that are turned around.
* `QuerySet.sorting_stable` — both, and what reversing a query set does to its keys.
-/

import Sift.Proofs.QuerySet.Sorting
import Sift.QuerySet.Basic

namespace Sift

namespace Value

/-! ### Values of one kind -/

/-- The kinds of values that are compared by what they hold. -/
inductive Plain where
  | bool
  | int
  | text
  | timestamp
  | dateTime
  | date
  deriving DecidableEq

/-- Which of these kinds a value is of, if it is of one. -/
def plain? : Value → Option Plain
  | .bool _ => some .bool
  | .int _ => some .int
  | .text _ => some .text
  | .timestamp _ => some .timestamp
  | .dateTime _ => some .dateTime
  | .date _ => some .date
  | _ => none

/-- **When a value is below another one of its kind**: false below true, the smaller number, the
text that comes first letter by letter, the earlier moment and the earlier day. Moments with a zone
are compared as instants. -/
inductive Below : Value → Value → Prop
  | bool : Below (.bool false) (.bool true)
  | int {a b : Int64} (smaller : a.toInt < b.toInt) : Below (.int a) (.int b)
  | text {a b : String} (first : a < b) : Below (.text a) (.text b)
  | timestamp {a b : Timestamp} (earlier : a.utc.compare b.utc = .lt) :
    Below (.timestamp a) (.timestamp b)
  | dateTime {a b : DateTime} (earlier : a.compare b = .lt) : Below (.dateTime a) (.dateTime b)
  | date {a b : Date} (earlier : a.compare b = .lt) : Below (.date a) (.date b)

variable {a b : Value} {kind : Plain}

/-- Values of one kind are alike, so that their order is settled. -/
theorem settled_of_plain (left : a.plain? = some kind) (right : b.plain? = some kind) :
    a.Settled b := by
  refine .inr ?_
  cases a <;> cases left <;> cases b <;> cases right
  · exact .bool _ _
  · exact .number rfl rfl (Decimal.alignable_of_scale rfl)
  · exact .text _ _
  · exact .timestamp _ _
  · exact .dateTime _ _
  · exact .date _ _

/-- **Values of one kind are sorted as they are below each other.** -/
theorem sortCompare_eq_lt_iff (left : a.plain? = some kind) (right : b.plain? = some kind) :
    a.sortCompare b = .lt ↔ a.Below b := by
  constructor
  · intro less
    cases a <;> cases left <;> cases b <;> cases right
    · rename_i a b
      cases a <;> cases b <;> first | exact .bool | cases less
    · exact .int (Int.compare_eq_lt.mp less)
    · exact .text (compare_lt_iff_lt.mp less)
    · exact .timestamp less
    · exact .dateTime less
    · exact .date less
  · rintro (_ | smaller | first | earlier | earlier | earlier)
    · rfl
    · exact Int.compare_eq_lt.mpr smaller
    · exact compare_lt_iff_lt.mpr first
    all_goals exact earlier

end Value

/-! ### Entries under a path -/

/-- Whether an entry has a value under a path: it is no failure, and the value is not null. -/
def Entry.Has (entry : Entry Item) (path : FieldPath) (value : Value) : Prop :=
  ∃ item, entry = .ok item ∧ item.valueAt path = some value ∧ value.isNull = false

theorem Entry.valueAt_eq_some_iff {entry : Entry Item} {path : FieldPath} {value : Value} :
    Entry.valueAt entry path = some value ↔ Entry.Has entry path value := by
  cases entry with
  | error error => exact iff_of_false nofun (by rintro ⟨item, failed, -⟩; cases failed)
  | ok item =>
    rw [Entry.valueAt, Option.filter_eq_some_iff, Bool.not_eq_true']
    constructor
    · rintro ⟨found, notNull⟩
      exact ⟨item, rfl, found, notNull⟩
    · rintro ⟨_, same, found, notNull⟩
      cases same
      exact ⟨found, notNull⟩

/-- **When an entry is below another one under a path**: its value is below that of the other, or it
has none and the other has one. -/
inductive Entry.Below (path : FieldPath) (a b : Entry Item) : Prop
  | missing {value : Value} (without : ∀ value, ¬Entry.Has a path value)
      (there : Entry.Has b path value)
  | values {first second : Value} (here : Entry.Has a path first) (there : Entry.Has b path second)
      (below : first.Below second)

/-! ### Entries under keys -/

/-- Whether a key puts an entry in front of another one: the lower one, or the higher one where the
key is descending. -/
def SortKey.Puts (key : SortKey) (a b : Entry Item) : Prop :=
  if key.descending then Entry.Below key.path b a else Entry.Below key.path a b

/-- Whether a key decides on neither of two entries. -/
def SortKey.Ties (key : SortKey) (a b : Entry Item) : Prop :=
  ¬key.Puts a b ∧ ¬key.Puts b a

/-- **When an entry comes before another one**: the first key that does not tie puts it in front. -/
inductive Before : List SortKey → Entry Item → Entry Item → Prop
  | first {key : SortKey} {rest : List SortKey} {a b : Entry Item} (puts : key.Puts a b) :
    Before (key :: rest) a b
  | later {key : SortKey} {rest : List SortKey} {a b : Entry Item} (ties : key.Ties a b)
      (before : Before rest a b) : Before (key :: rest) a b

/-- Whether two entries tie on all of some keys. -/
def TieOn (keys : List SortKey) (a b : Entry Item) : Prop :=
  ∀ key ∈ keys, key.Ties a b

/-- Whether each key finds values of one kind in some entries. -/
def PlainUnder (keys : List SortKey) (entries : List (Entry Item)) : Prop :=
  ∀ key ∈ keys, ∃ kind, ∀ entry ∈ entries, ∀ value,
    Entry.Has entry key.path value → value.plain? = some kind

variable {keys : List SortKey} {entries sorted : List (Entry Item)} {a b : Entry Item}

theorem PlainUnder.settled (plain : PlainUnder keys entries) : SettledUnder keys entries := by
  intro key inKeys x inX y inY v inV w inW
  obtain ⟨kind, each⟩ := plain key inKeys
  exact Value.settled_of_plain (each x inX v (Entry.valueAt_eq_some_iff.mp inV))
    (each y inY w (Entry.valueAt_eq_some_iff.mp inW))

/-- The values of two entries under a path compare as the entries are below each other. -/
theorem SortKey.compareValues_eq_lt_iff {path : FieldPath} {kind : Value.Plain}
    (left : ∀ value, Entry.Has a path value → value.plain? = some kind)
    (right : ∀ value, Entry.Has b path value → value.plain? = some kind) :
    compareValues (Entry.valueAt a path) (Entry.valueAt b path) = .lt ↔ Entry.Below path a b := by
  have has : ∀ {entry : Entry Item} {value : Value},
      Entry.valueAt entry path = some value → Entry.Has entry path value :=
    Entry.valueAt_eq_some_iff.mp
  have hasNot : ∀ {entry : Entry Item}, Entry.valueAt entry path = none →
      ∀ value, ¬Entry.Has entry path value := by
    intro entry none value some
    rw [Entry.valueAt_eq_some_iff.mpr some] at none
    cases none
  cases here : Entry.valueAt a path with
  | none =>
    cases there : Entry.valueAt b path with
    | none =>
      refine iff_of_false nofun ?_
      rintro (⟨_, some⟩ | ⟨_, some, _⟩) <;> exact hasNot there _ some
    | some value => exact iff_of_true rfl (.missing (hasNot here) (has there))
  | some first =>
    cases there : Entry.valueAt b path with
    | none =>
      refine iff_of_false nofun ?_
      rintro (⟨_, some⟩ | ⟨_, some, _⟩) <;> exact hasNot there _ some
    | some second =>
      refine (Value.sortCompare_eq_lt_iff (left _ (has here)) (right _ (has there))).trans
        ⟨.values (has here) (has there), ?_⟩
      rintro (⟨without, _⟩ | ⟨mine, other, below⟩)
      · exact absurd (has here) (without first)
      · cases here.symm.trans (Entry.valueAt_eq_some_iff.mpr mine)
        cases there.symm.trans (Entry.valueAt_eq_some_iff.mpr other)
        exact below

/-- Entries compare by a key as the key puts them. -/
theorem SortKey.compare_eq_lt_iff {key : SortKey} {kind : Value.Plain}
    (left : ∀ value, Entry.Has a key.path value → value.plain? = some kind)
    (right : ∀ value, Entry.Has b key.path value → value.plain? = some kind) :
    key.compare a b = .lt ↔ key.Puts a b := by
  simp only [compare, Puts]
  split
  · rw [← compareValues_swap]
    exact compareValues_eq_lt_iff right left
  · exact compareValues_eq_lt_iff left right

/-- A key ties where neither entry is put in front. -/
theorem SortKey.compare_eq_iff {key : SortKey} {kind : Value.Plain}
    (left : ∀ value, Entry.Has a key.path value → value.plain? = some kind)
    (right : ∀ value, Entry.Has b key.path value → value.plain? = some kind) :
    key.compare a b = .eq ↔ key.Ties a b := by
  rw [Ties, ← compare_eq_lt_iff left right, ← compare_eq_lt_iff right left, key.compare_swap b a]
  cases key.compare a b <;> simp

/-! ### The order of entries -/

/-- **One entry is less than another where it comes before it.** -/
theorem compareEntries_eq_lt_iff (plain : PlainUnder keys entries) (inA : a ∈ entries)
    (inB : b ∈ entries) : compareEntries keys a b = .lt ↔ Before keys a b := by
  induction keys with
  | nil => exact iff_of_false nofun nofun
  | cons key rest ih =>
    obtain ⟨kind, each⟩ := plain key List.mem_cons_self
    have later := ih fun key member => plain key (List.mem_cons_of_mem _ member)
    rw [compareEntries, Ordering.then_eq_lt, SortKey.compare_eq_lt_iff (each a inA) (each b inB),
      SortKey.compare_eq_iff (each a inA) (each b inB), later]
    constructor
    · rintro (puts | ⟨ties, before⟩)
      · exact .first puts
      · exact .later ties before
    · intro before
      cases before with
      | first puts => exact .inl puts
      | later ties before => exact .inr ⟨ties, before⟩

/-- **Two entries compare as equal where they tie on all keys.** -/
theorem compareEntries_eq_iff (plain : PlainUnder keys entries) (inA : a ∈ entries)
    (inB : b ∈ entries) : compareEntries keys a b = .eq ↔ TieOn keys a b := by
  induction keys with
  | nil => simp [compareEntries, TieOn]
  | cons key rest ih =>
    obtain ⟨kind, each⟩ := plain key List.mem_cons_self
    have later := ih fun key member => plain key (List.mem_cons_of_mem _ member)
    rw [compareEntries, Ordering.then_eq_eq, SortKey.compare_eq_iff (each a inA) (each b inB),
      later, TieOn, TieOn, List.forall_mem_cons]

/-- An entry is not greater than another one where that one does not come before it. -/
theorem compareEntries_isLE_iff (plain : PlainUnder keys entries) (inA : a ∈ entries)
    (inB : b ∈ entries) : (compareEntries keys a b).isLE = true ↔ ¬Before keys b a := by
  rw [← compareEntries_eq_lt_iff plain inB inA, compareEntries_swap keys a b]
  cases compareEntries keys b a <;> simp

/-- **A stable order of some entries**: the same entries, none of them behind one that it comes
before, and those that tie on all keys as they came. -/
structure InStableOrder (keys : List SortKey) (entries sorted : List (Entry Item)) : Prop where
  perm : sorted.Perm entries
  ordered : sorted.Pairwise fun a b => ¬Before keys b a
  stable : ∀ tied : List (Entry Item), tied.Sublist entries → tied.Pairwise (TieOn keys) →
    tied.Sublist sorted

/-- **Entries have one stable order, which sorting gives.** -/
theorem stableOrder_iff (plain : PlainUnder keys entries) :
    InStableOrder keys entries sorted ↔ sorted = sortEntries keys entries := by
  have preorders := preorders_of_settled plain.settled
  rw [sortEntries, ← stablySorted_iff preorders]
  constructor
  · rintro ⟨perm, ordered, stable⟩
    refine .of_sublist preorders perm ?_ fun tied among ties => stable tied among ?_
    · refine ordered.imp_of_mem fun inA inB notBefore => ?_
      exact (compareEntries_isLE_iff plain (perm.subset inA) (perm.subset inB)).mpr notBefore
    · refine ties.imp_of_mem fun inA inB tie => ?_
      exact (compareEntries_eq_iff plain (among.subset inA) (among.subset inB)).mp tie
  · intro stably
    refine ⟨stably.perm, ?_, fun tied among ties => stably.sublist preorders among ?_⟩
    · refine stably.ascending.imp_of_mem fun inA inB ascending => ?_
      exact (compareEntries_isLE_iff plain (stably.perm.subset inA)
        (stably.perm.subset inB)).mp ascending
    · refine ties.imp_of_mem fun inA inB tie => ?_
      exact (compareEntries_eq_iff plain (among.subset inA) (among.subset inB)).mpr tie

/-! ### Keys that are turned around -/

namespace SortKey

/-- The same key in the other direction. -/
def turned (key : SortKey) : SortKey :=
  { key with descending := !key.descending }

@[simp] theorem turned_turned (key : SortKey) : key.turned.turned = key := by
  simp [turned]

theorem puts_turned (key : SortKey) : key.turned.Puts a b ↔ key.Puts b a := by
  by_cases down : key.descending <;> simp [Puts, turned, down]

theorem ties_turned (key : SortKey) : key.turned.Ties a b ↔ key.Ties a b := by
  rw [Ties, Ties, puts_turned, puts_turned, and_comm]

theorem Ties.symm {key : SortKey} (ties : key.Ties a b) : key.Ties b a :=
  And.symm ties

end SortKey

theorem Before.turned (before : Before keys b a) : Before (keys.map .turned) a b := by
  induction before with
  | first puts => exact .first (SortKey.puts_turned _ |>.mpr puts)
  | later ties _ ih => exact .later (SortKey.ties_turned _ |>.mpr ties.symm) ih

theorem before_turned : Before (keys.map .turned) a b ↔ Before keys b a := by
  refine ⟨fun before => ?_, Before.turned⟩
  simpa [Function.comp_def] using before.turned

theorem tieOn_turned : TieOn (keys.map .turned) a b ↔ TieOn keys a b := by
  simp [TieOn, SortKey.ties_turned]

theorem PlainUnder.turned (plain : PlainUnder keys entries) :
    PlainUnder (keys.map .turned) entries := by
  intro key member
  obtain ⟨key, inKeys, rfl⟩ := List.mem_map.mp member
  exact plain key inKeys

/-- **Where no two entries tie on all keys, keys that are turned around turn the order around.** -/
theorem sortEntries_turned (plain : PlainUnder keys entries)
    (apart : entries.Pairwise fun a b => ¬TieOn keys a b) :
    sortEntries (keys.map .turned) entries = (sortEntries keys entries).reverse := by
  obtain ⟨perm, ordered, -⟩ := (stableOrder_iff plain).mpr rfl
  refine ((stableOrder_iff plain.turned).mp ⟨?_, ?_, fun tied among ties => ?_⟩).symm
  · exact (List.reverse_perm _).trans perm
  · rw [List.pairwise_reverse]
    exact ordered.imp fun notBefore => mt before_turned.mp notBefore
  · -- Only an entry on its own ties with all that it is among.
    match tied with
    | [] => exact List.nil_sublist _
    | [a] =>
      rw [List.singleton_sublist, List.mem_reverse]
      exact perm.mem_iff.mpr (among.subset List.mem_cons_self)
    | a :: b :: rest =>
      have tie := (List.pairwise_cons.mp ties).1 b List.mem_cons_self
      have differ := (List.pairwise_cons.mp (apart.sublist among)).1 b List.mem_cons_self
      exact absurd (tieOn_turned.mp tie) differ

/-- Reversing a query set that is ordered turns its keys around, and reversing it again gives the
same search. -/
theorem QuerySet.exists_reverse {set : QuerySet} (isOrdered : set.sortKeys ≠ []) :
    ∃ flipped, set.reverse = .ok flipped ∧ flipped.sortKeys = set.sortKeys.map .turned ∧
      flipped.reverse = .ok set.all := by
  have some : set.ordering.isEmpty = false := by
    simpa [sortKeys] using isOrdered
  refine ⟨{ set.all with reversed := !set.reversed }, ?_, ?_, ?_⟩
  · simp [reverse, some]
  · simp [sortKeys, SortKey.turned, Function.comp_def]
  · simp [reverse, some, all]

/-- **Sorting is stable, by keys that compare values of one kind.** It gives the one arrangement of
the entries in which none stands behind one that it comes before and entries that tie on all keys
stay as they came. Where no two tie, the keys of the reversed query set give the reverse of that,
and those of the query set reversed twice give the same again. -/
theorem QuerySet.sorting_stable (keys : List SortKey) (entries : List (Entry Item))
    (plain : PlainUnder keys entries) :
    (∀ sorted, InStableOrder keys entries sorted ↔ sorted = sortEntries keys entries) ∧
    ((entries.Pairwise fun a b => ¬TieOn keys a b) →
      sortEntries (keys.map .turned) entries = (sortEntries keys entries).reverse) ∧
    sortEntries ((keys.map .turned).map .turned) entries = sortEntries keys entries ∧
    ∀ set : QuerySet, set.sortKeys = keys → keys ≠ [] →
      ∃ flipped, set.reverse = .ok flipped ∧ flipped.sortKeys = keys.map .turned ∧
        flipped.reverse = .ok set.all := by
  refine ⟨fun sorted => stableOrder_iff plain, sortEntries_turned plain, ?_, ?_⟩
  · simp [Function.comp_def]
  · rintro set rfl isOrdered
    exact exists_reverse isOrdered

/-- Sorted by size, the largest first, and then by subject. Two entries have no size, one of them
because its size is null, and the failure has no values at all: the three come last. The entries of
one size and one subject stay as they came. Without the second of these no two entries tie. -/
theorem QuerySet.sorting_stable_sizes :
    let entry (id : String) (size : List (String × Value)) (subject : String) : Entry Item :=
      .ok ⟨⟨id, none⟩, ("subject", .text subject) :: size⟩
    let one := entry "a" [("size", .int 1)] "x"
    let sizeless := entry "b" [] "y"
    let failure : Entry Item := .error (.itemNotFound "c")
    let two := entry "d" [("size", .int 2)] "x"
    let again := entry "e" [("size", .int 1)] "x"
    let null := entry "f" [("size", .null)] "w"
    let keys : List SortKey := [⟨.ofField "size", true⟩, ⟨.ofField "subject", false⟩]
    let entries := [one, sizeless, failure, two, again, null]
    let fewer := [one, sizeless, failure, two, null]
    PlainUnder keys entries ∧
      InStableOrder keys entries [two, one, again, failure, null, sizeless] ∧
      (fewer.Pairwise fun a b => ¬TieOn keys a b) ∧
      sortEntries (keys.map .turned) fewer = [sizeless, null, failure, one, two] := by
  intro entry one sizeless failure two again null keys entries fewer
  have plain : PlainUnder keys entries := by
    have sizes : ∀ x ∈ entries, ∀ v ∈ Entry.valueAt x (.ofField "size"),
        v.plain? = some .int := by decide
    have subjects : ∀ x ∈ entries, ∀ v ∈ Entry.valueAt x (.ofField "subject"),
        v.plain? = some .text := by decide
    intro key inKeys
    simp only [keys, List.mem_cons, List.not_mem_nil, or_false] at inKeys
    rcases inKeys with rfl | rfl
    · exact ⟨.int, fun x inX v has => sizes x inX v (Entry.valueAt_eq_some_iff.mpr has)⟩
    · exact ⟨.text, fun x inX v has => subjects x inX v (Entry.valueAt_eq_some_iff.mpr has)⟩
  have among : fewer.Sublist entries := by simp [fewer, entries]
  have plainFewer : PlainUnder keys fewer := fun key inKeys =>
    (plain key inKeys).imp fun _ each x inX => each x (among.subset inX)
  have apart : fewer.Pairwise fun a b => ¬TieOn keys a b := by
    have differ : fewer.Pairwise fun a b => compareEntries keys a b ≠ .eq := by decide
    exact differ.imp_of_mem fun inA inB => mt (compareEntries_eq_iff plainFewer inA inB).mpr
  obtain ⟨unique, -⟩ := QuerySet.sorting_stable keys entries plain
  obtain ⟨-, turned, -⟩ := QuerySet.sorting_stable keys fewer plainFewer
  refine ⟨plain, (unique _).mpr rfl, apart, ?_⟩
  rw [turned apart]
  rfl

end Sift
