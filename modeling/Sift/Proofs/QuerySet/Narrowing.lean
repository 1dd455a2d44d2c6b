/-
**Filters that follow one another are an intersection.**

A query set that is made by filtering and excluding, in any number of calls, asks for the items that
each of the calls asks for. So the order of the calls does not matter, nor whether two filters are
two calls or one call with both joined. Calls that only set the size of pages or the depth, or forget
rows, ask for nothing further.

* `QuerySet.Change.Asks` — the restriction that a call asks for.
* `QuerySet.Narrowed.change`, `QuerySet.Narrowed.changedBy` — what one call does to a query set, and
  what a sequence of calls does.
* `QuerySet.narrowing_exact` — the rows of such a query set over a store in memory.
-/

import Mathlib.Data.List.Perm.Basic
import Sift.Catalog.Standard
import Sift.Proofs.Predicate.Complement
import Sift.Proofs.QuerySet.Calls
import Sift.Proofs.QuerySet.InMemory

namespace Sift

/-! ### Predicates joined -/

/-- Whether a predicate is some predicates joined by `both`, two at a time and in order. -/
inductive Predicate.Joined : List Predicate → Predicate → Prop
  | single (predicate : Predicate) : Joined [predicate] predicate
  | both {front back : List Predicate} {a b : Predicate} :
      Joined front a → Joined back b → Joined (front ++ back) (a.both b)

namespace QuerySet

/-! ### One call -/

/-- **The restriction that a call asks for**, if the call narrows a search or does not change what is
searched for. -/
inductive Change.Asks (catalog : Catalog) : Change → Option Restriction → Prop
  | filter {predicate : Predicate} {restriction : Option Restriction}
      (compiled : predicate.compile catalog = .ok restriction) :
      Asks catalog (.filter predicate) restriction
  | exclude {predicate resolved : Predicate} {restriction : Option Restriction}
      (run : predicate.resolve catalog = .ok resolved)
      (compiled : resolved.negate.compile catalog = .ok restriction) :
      Asks catalog (.exclude predicate) restriction
  | pageSize {size : Nat} (positive : 1 ≤ size) : Asks catalog (.pageSize size) none
  | depth (depth : Depth) : Asks catalog (.depth depth) none
  | all : Asks catalog .all none

/-- Whether a call is of a kind that narrows a search or does not change what is searched for. -/
def Change.Narrows : Change → Prop
  | .filter _ | .exclude _ | .pageSize _ | .depth _ | .all => True
  | _ => False

variable {catalog : Catalog} {set after : QuerySet}

/-- A call that succeeds asks for a restriction. -/
theorem Change.Narrows.exists_asks {change : Change} (narrows : change.Narrows)
    (made : set.changed change = .ok after) :
    ∃ restriction, change.Asks set.catalog restriction := by
  cases makes_of_changed made with
  | filter run =>
    obtain ⟨restriction, compiled⟩ := Predicate.exists_compile_iff.mpr ⟨_, run⟩
    exact ⟨restriction, .filter compiled⟩
  | exclude run =>
    have fixed := Predicate.resolve_negate_of_resolved (Predicate.resolve_of_resolve run)
    obtain ⟨restriction, compiled⟩ := Predicate.exists_compile_iff.mpr ⟨_, fixed⟩
    exact ⟨restriction, .exclude run compiled⟩
  | pageSize positive => exact ⟨none, .pageSize positive⟩
  | depth depth => exact ⟨none, .depth depth⟩
  | all => exact ⟨none, .all⟩
  | _ => exact narrows.elim

section Meaning

variable {predicate : Predicate} {restriction : Option Restriction} {item : Item}

/-- To filter by a predicate asks for the items that it is true of. -/
theorem Change.Asks.admits_filter (asks : Change.Asks catalog (.filter predicate) restriction) :
    Memory.admits restriction (.ok item)
      = (predicate.truth (Lookup.holds catalog item)).getD true := by
  obtain ⟨compiled⟩ := asks
  exact Predicate.admits_of_compile compiled item

/-- To exclude a predicate asks for the items that it is not true of, among those that decide it. -/
theorem Change.Asks.admits_exclude (asks : Change.Asks catalog (.exclude predicate) restriction)
    (decided : predicate.Decided catalog item) {truth : Bool}
    (said : predicate.truth (Lookup.holds catalog item) = some truth) :
    Memory.admits restriction (.ok item) = !truth := by
  cases asks with
  | exclude run compiled =>
    rw [← Predicate.truth_holds_resolve run] at said
    obtain ⟨opposite, known, decides⟩ :=
      Predicate.exists_truth_negate (Predicate.resolve_of_resolve run) said
    rw [Predicate.admits_of_compile compiled, known, Option.getD_some]
    exact decides.mpr ((Predicate.decided_resolve_iff run).mpr decided)

end Meaning

/-- Whether an entry is asked for by all of some restrictions. A failure always is, and an item that
satisfies each of them; nothing is asked of it where there is none. -/
def admitsAll (asked : List (Option Restriction)) : Entry Item → Bool
  | .error _ => true
  | .ok item => asked.all fun restriction =>
    restriction.all fun restriction => restriction.satisfiedBy item

theorem admitsAll_ok (asked : List (Option Restriction)) (item : Item) :
    admitsAll asked (.ok item)
      = asked.all fun restriction => Memory.admits restriction (.ok item) := by
  simp only [admitsAll, Memory.admits_ok]

/-- **What narrowing makes of a query set**: it asks for the items that all of some restrictions ask
for, as whole items in the order of the store. -/
structure Narrowed (catalog : Catalog) (asked : List (Option Restriction)) (set : QuerySet) :
    Prop where
  catalog : set.catalog = catalog
  plain : set.projection = none ∧ set.shape = .entities ∧ set.ordering = [] ∧ set.cache = none
  size : 1 ≤ set.pageSize
  matching : set.predicate ≠ none
  restriction : ∃ whole, set.restriction = .ok whole ∧
    ∀ item, Memory.admits whole (.ok item) = admitsAll asked (.ok item)

theorem narrowed_ofFolders (catalog : Catalog) (folders : List FolderId) :
    Narrowed catalog [] (ofFolders catalog folders) :=
  ⟨rfl, ⟨rfl, rfl, rfl, rfl⟩, (by decide : 1 ≤ 100), Option.some_ne_none _, none, rfl, fun _ => rfl⟩

namespace Narrowed

variable {asked : List (Option Restriction)} {restriction : Option Restriction}

/-- To narrow further by a predicate asks for one more restriction: any that admits the items that
the predicate is true of. -/
theorem narrow (narrowed : Narrowed catalog asked set) {predicate : Predicate}
    (fixed : predicate.resolve catalog = .ok predicate)
    (means : ∀ item, Memory.admits restriction (.ok item)
      = (predicate.truth (Lookup.holds catalog item)).getD true) :
    Narrowed catalog (asked ++ [restriction])
      { set.all with predicate := set.predicate.map (·.both predicate) } := by
  obtain ⟨rfl, plain, size, matching, whole, known, admitted⟩ := narrowed
  obtain ⟨base, given⟩ := Option.ne_none_iff_exists'.mp matching
  obtain ⟨narrower, both, admits⟩ := exists_restriction_both given known fixed
  refine ⟨rfl, ⟨plain.1, plain.2.1, plain.2.2.1, rfl⟩, size, ?_, narrower, both, fun item => ?_⟩
  · simp [given]
  · rw [admits, admitted, ← means, admitsAll_ok, admitsAll_ok, List.all_append]
    simp

/-- A call that leaves alone what is searched for asks for nothing further. -/
theorem keep (narrowed : Narrowed catalog asked set) (same : after.catalog = set.catalog)
    (plain : after.projection = set.projection ∧ after.shape = set.shape ∧
      after.ordering = set.ordering ∧ after.cache = none)
    (size : 1 ≤ after.pageSize) (predicate : after.predicate = set.predicate) :
    Narrowed catalog (asked ++ [none]) after := by
  obtain ⟨known, was, -, matching, whole, asks, admitted⟩ := narrowed
  refine ⟨same.trans known, ?_, size, predicate ▸ matching, whole, ?_, fun item => ?_⟩
  · exact ⟨plain.1.trans was.1, plain.2.1.trans was.2.1, plain.2.2.1.trans was.2.2.1, plain.2.2.2⟩
  · rwa [QuerySet.restriction, predicate, same]
  · rw [admitted, admitsAll_ok, admitsAll_ok, List.all_append]
    simp [Memory.admits]

/-- **One call that asks for a restriction succeeds**, and the query set asks for that too. -/
theorem change (narrowed : Narrowed catalog asked set) {change : Change}
    (asks : change.Asks catalog restriction) :
    ∃ after, set.changed change = .ok after ∧ Narrowed catalog (asked ++ [restriction]) after := by
  have known := narrowed.catalog
  cases asks with
  | filter compiled =>
    obtain ⟨resolved, run, -⟩ := bind_eq_ok_iff.mp compiled
    refine ⟨_, bind_eq_ok_iff.mpr ⟨resolved, known ▸ run, rfl⟩,
      narrowed.narrow (Predicate.resolve_of_resolve run) fun item => ?_⟩
    rw [Predicate.admits_of_compile compiled, Predicate.truth_holds_resolve run]
  | exclude run compiled =>
    have fixed := Predicate.resolve_negate_of_resolved (Predicate.resolve_of_resolve run)
    exact ⟨_, bind_eq_ok_iff.mpr ⟨_, known ▸ run, rfl⟩,
      narrowed.narrow fixed (Predicate.admits_of_compile compiled)⟩
  | @pageSize size positive =>
    have made : set.changed (.pageSize size) = .ok { set.all with pageSize := size } :=
      if_neg (Nat.one_le_iff_ne_zero.mp positive)
    exact ⟨_, made, narrowed.keep rfl ⟨rfl, rfl, rfl, rfl⟩ positive rfl⟩
  | depth depth => exact ⟨_, rfl, narrowed.keep rfl ⟨rfl, rfl, rfl, rfl⟩ narrowed.size rfl⟩
  | all => exact ⟨_, rfl, narrowed.keep rfl ⟨rfl, rfl, rfl, rfl⟩ narrowed.size rfl⟩

end Narrowed

/-! ### Sequences of calls -/

/-- The query set that calls make one after another, if each of them succeeds. -/
def changedBy (set : QuerySet) (changes : List Change) : Except QueryError QuerySet :=
  changes.foldlM changed set

/-- **Calls that ask for restrictions succeed one after another**, and the query set asks for all of
them. -/
theorem Narrowed.changedBy {asked more : List (Option Restriction)} {changes : List Change}
    (narrowed : Narrowed catalog asked set)
    (each : List.Forall₂ (Change.Asks catalog) changes more) :
    ∃ after, set.changedBy changes = .ok after ∧ Narrowed catalog (asked ++ more) after := by
  induction each generalizing set asked with
  | nil => exact ⟨set, rfl, by rwa [List.append_nil]⟩
  | cons asks _ ih =>
    obtain ⟨middle, made, narrowed⟩ := narrowed.change asks
    obtain ⟨after, rest, narrowed⟩ := ih narrowed
    rw [List.append_assoc] at narrowed
    refine ⟨after, ?_, narrowed⟩
    rw [QuerySet.changedBy, List.foldlM_cons, made]
    exact rest

/-- Where calls succeed one after another, each asks for a restriction. -/
theorem exists_asks_of_changedBy {asked : List (Option Restriction)} {changes : List Change}
    (narrowed : Narrowed catalog asked set) (narrows : ∀ change ∈ changes, change.Narrows)
    (made : set.changedBy changes = .ok after) :
    ∃ more, List.Forall₂ (Change.Asks catalog) changes more := by
  induction changes generalizing set asked with
  | nil => exact ⟨[], .nil⟩
  | cons change rest ih =>
    rw [changedBy, List.foldlM_cons] at made
    obtain ⟨middle, here, there⟩ := bind_eq_ok_iff.mp made
    obtain ⟨restriction, asks⟩ := (narrows change List.mem_cons_self).exists_asks here
    rw [narrowed.catalog] at asks
    obtain ⟨_, again, narrowed⟩ := narrowed.change asks
    cases here.symm.trans again
    obtain ⟨more, each⟩ := ih narrowed (fun other later => narrows other (.tail _ later)) there
    exact ⟨restriction :: more, .cons asks each⟩

/-! ### Rows -/

/-- The rows that all of some restrictions ask for, over a store in memory: whole items, in the order
of the store, with every failure in its place. -/
def rowsAskedFor (memory : Memory) (asked : List (Option Restriction)) : List (Entry Row) :=
  (memory.entries.filter (admitsAll asked)).map (·.map .item)

/-- Restrictions that ask for the same items ask for the same rows. -/
theorem rowsAskedFor_congr (memory : Memory) {asked other : List (Option Restriction)}
    (same : ∀ item, admitsAll asked (.ok item) = admitsAll other (.ok item)) :
    rowsAskedFor memory asked = rowsAskedFor memory other := by
  have alike : admitsAll asked = admitsAll other := by
    funext entry
    cases entry with
    | ok item => exact same item
    | error error => rfl
  rw [rowsAskedFor, rowsAskedFor, alike]

/-- **A narrowed query set has the rows that its restrictions ask for.** -/
theorem Narrowed.fetch {asked : List (Option Restriction)} (narrowed : Narrowed catalog asked set)
    {session : Session Memory} (steady : session.store.pageFailure = none)
    (addressable : session.store.entries.length < UInt64.size) :
    (set.fetch session).1.1 = .ok (rowsAskedFor session.store asked) := by
  obtain ⟨-, ⟨whole, entities, unordered, uncached⟩, size, matching, restriction, known, admitted⟩ :=
    narrowed
  have planned := plan_of_whole whole entities
  have served : session.store.served (set.request restriction 0 none set.pageSize)
      = session.store.found restriction := by
    rw [Memory.served_eq, request, planned]
    exact List.map_id'' (fun entry => by cases entry <;> rfl) _
  have alone : admitsAll [restriction] = Memory.admits restriction := by
    funext entry
    cases entry with
    | error error => rfl
    | ok item => rw [admitsAll_ok, List.all_cons, List.all_nil, Bool.and_true]
  rw [(fetch_memory uncached matching known steady addressable size).1, sortedRows, served, sortKeys,
    unordered, List.map_nil, sortEntries_nil, planned, funext Shaper.row_whole, Memory.found, ← alone]
  refine congrArg Except.ok (rowsAskedFor_congr session.store fun item => ?_)
  rw [alone, admitted]

/-! ### Filters joined -/

/-- To filter by predicates joined asks for what filtering by one after another asks for. -/
theorem exists_asks_joined {queries : List Predicate} {joined : Predicate}
    (parts : Predicate.Joined queries joined) {asked : List (Option Restriction)}
    (each : List.Forall₂ (Change.Asks catalog) (queries.map .filter) asked) :
    ∃ restriction, Change.Asks catalog (.filter joined) restriction ∧
      ∀ item, Memory.admits restriction (.ok item) = admitsAll asked (.ok item) := by
  induction parts generalizing asked with
  | single predicate =>
    obtain ⟨restriction, _, asks, rest, rfl⟩ := List.forall₂_cons_left_iff.mp each
    cases rest
    refine ⟨restriction, asks, fun item => ?_⟩
    rw [admitsAll_ok, List.all_cons, List.all_nil, Bool.and_true]
  | @both front back a b _ _ inFront inBack =>
    rw [List.map_append] at each
    obtain ⟨asksFront, asksBack, first, last, rfl⟩ := exists_append_of_forall₂ each
    obtain ⟨left, asksLeft, admitsLeft⟩ := inFront first
    obtain ⟨right, asksRight, admitsRight⟩ := inBack last
    obtain ⟨compiledLeft⟩ := asksLeft
    obtain ⟨compiledRight⟩ := asksRight
    obtain ⟨restriction, compiled⟩ := Predicate.exists_compile_both
      (Predicate.exists_compile_iff.mp ⟨left, compiledLeft⟩)
      (Predicate.exists_compile_iff.mp ⟨right, compiledRight⟩)
    refine ⟨restriction, .filter compiled, fun item => ?_⟩
    rw [Predicate.admits_of_compile compiled, Predicate.truth_both_getD,
      ← Predicate.admits_of_compile compiledLeft, ← Predicate.admits_of_compile compiledRight,
      admitsLeft, admitsRight, admitsAll_ok, admitsAll_ok, admitsAll_ok, List.all_append]

/-! ### The rows of a narrowed search -/

/-- Calls that ask for some restrictions make a query set with the rows asked for. -/
theorem exists_fetch {changes : List Change} {asked : List (Option Restriction)}
    (folders : List FolderId) (each : List.Forall₂ (Change.Asks catalog) changes asked)
    {session : Session Memory} (steady : session.store.pageFailure = none)
    (addressable : session.store.entries.length < UInt64.size) :
    ∃ set, (ofFolders catalog folders).changedBy changes = .ok set ∧
      (set.fetch session).1.1 = .ok (rowsAskedFor session.store asked) := by
  obtain ⟨set, made, narrowed⟩ := (narrowed_ofFolders catalog folders).changedBy each
  exact ⟨set, made, narrowed.fetch steady addressable⟩

/-- **A search narrowed by one call after another gives what all of the calls ask for**, in the order
of the store and with every failure. The same calls in any other order succeed and give the same
rows, and so does one filter by predicates joined in place of a filter by each. -/
theorem narrowing_exact {folders : List FolderId} {changes : List Change}
    (narrows : ∀ change ∈ changes, change.Narrows)
    (made : (ofFolders catalog folders).changedBy changes = .ok set) {session : Session Memory}
    (steady : session.store.pageFailure = none)
    (addressable : session.store.entries.length < UInt64.size) :
    ∃ asked rows, List.Forall₂ (Change.Asks catalog) changes asked ∧
      rows = rowsAskedFor session.store asked ∧ (set.fetch session).1.1 = .ok rows ∧
      (∀ others : List Change, others.Perm changes → ∃ other,
        (ofFolders catalog folders).changedBy others = .ok other ∧
          (other.fetch session).1.1 = .ok rows) ∧
      ∀ (queries : List Predicate) (joined : Predicate) (rest others : List Change),
        Predicate.Joined queries joined → changes.Perm (queries.map .filter ++ rest) →
          others.Perm (.filter joined :: rest) → ∃ other,
            (ofFolders catalog folders).changedBy others = .ok other ∧
              (other.fetch session).1.1 = .ok rows := by
  obtain ⟨asked, each⟩ := exists_asks_of_changedBy (narrowed_ofFolders catalog folders) narrows made
  -- Other calls give the same rows if what they ask for is the same for every item.
  have alike : ∀ {others : List Change} {other : List (Option Restriction)},
      List.Forall₂ (Change.Asks catalog) others other →
      (∀ item, admitsAll other (.ok item) = admitsAll asked (.ok item)) →
      ∃ set, (ofFolders catalog folders).changedBy others = .ok set ∧
        (set.fetch session).1.1 = .ok (rowsAskedFor session.store asked) := by
    intro others other each same
    rw [← rowsAskedFor_congr session.store same]
    exact exists_fetch folders each steady addressable
  refine ⟨asked, _, each, rfl, ?_, fun others permuted => ?_,
    fun queries joined rest others parts permuted reordered => ?_⟩
  · obtain ⟨again, same, fetched⟩ := alike each fun _ => rfl
    cases made.symm.trans same
    exact fetched
  · obtain ⟨other, asks, reordered⟩ := List.perm_comp_forall₂ permuted each
    exact alike asks fun item => reordered.all_eq
  · obtain ⟨apart, asksApart, sameApart⟩ := List.perm_comp_forall₂ permuted.symm each
    obtain ⟨left, right, first, last, rfl⟩ := exists_append_of_forall₂ asksApart
    obtain ⟨restriction, asksJoined, admits⟩ := exists_asks_joined parts first
    obtain ⟨other, asks, sameJoined⟩ := List.perm_comp_forall₂ reordered (.cons asksJoined last)
    refine alike asks fun item => ?_
    calc admitsAll other (.ok item)
      _ = admitsAll (restriction :: right) (.ok item) := sameJoined.all_eq
      _ = admitsAll (left ++ right) (.ok item) := by
        rw [admitsAll_ok, List.all_cons, admits, admitsAll_ok, admitsAll_ok, List.all_append]
      _ = admitsAll asked (.ok item) := sameApart.all_eq

/-- Of four entries, the failure and the larger item that is not excluded stay, in either order of
the calls. -/
theorem narrowing_exact_larger :
    let large : Item := ⟨⟨"a", none⟩, [("size", .int 9), ("subject", .text "kept")]⟩
    let failure : Entry Item := .error (.itemNotFound "b")
    let small : Item := ⟨⟨"c", none⟩, [("size", .int 1), ("subject", .text "kept")]⟩
    let spam : Item := ⟨⟨"d", none⟩, [("size", .int 9), ("subject", .text "spam")]⟩
    let session : Session Memory := ⟨⟨[.ok large, failure, .ok small, .ok spam], none⟩, []⟩
    let changes : List Change :=
      [.filter (.compare "size" .greater (.int 5)), .pageSize 1,
        .exclude (.compare "subject" .equal (.text "spam"))]
    ∃ set other, (ofFolders Catalog.standard []).changedBy changes = .ok set ∧
      (ofFolders Catalog.standard []).changedBy changes.reverse = .ok other ∧
      (set.fetch session).1.1 = .ok [.ok (.item large), .error (.itemNotFound "b")] ∧
      (other.fetch session).1.1 = .ok [.ok (.item large), .error (.itemNotFound "b")] := by
  intro large failure small spam session changes
  obtain ⟨set, made⟩ : ∃ set, (ofFolders Catalog.standard []).changedBy changes = .ok set :=
    exists_ok_of_toBool (by decide +kernel)
  have narrows : ∀ change ∈ changes, change.Narrows := by simp [changes, Change.Narrows]
  obtain ⟨asked, rows, each, known, fetched, anyOrder, -⟩ :=
    narrowing_exact narrows made (rfl : session.store.pageFailure = none) (by decide)
  obtain ⟨other, reversed, same⟩ := anyOrder _ changes.reverse_perm
  suffices left : rows = [.ok (.item large), .error (.itemNotFound "b")] from
    ⟨set, other, made, reversed, left ▸ fetched, left ▸ same⟩
  obtain ⟨larger, _, asksLarger, later, rfl⟩ := List.forall₂_cons_left_iff.mp each
  obtain ⟨_, _, ⟨-⟩, last, rfl⟩ := List.forall₂_cons_left_iff.mp later
  obtain ⟨notSpam, _, asksNotSpam, ⟨⟩, rfl⟩ := List.forall₂_cons_left_iff.mp last
  have admitted : ∀ (item : Item) (truth : Bool),
      (Predicate.compare "subject" .equal (.text "spam")).truth
        (Lookup.holds Catalog.standard item) = some truth →
      admitsAll [larger, none, notSpam] (.ok item)
        = (((Predicate.compare "size" .greater (.int 5)).truth
          (Lookup.holds Catalog.standard item)).getD true && !truth) := by
    intro item truth said
    rw [← asksLarger.admits_filter, ← asksNotSpam.admits_exclude (fun ordering => nomatch ordering)
      said]
    simp [admitsAll_ok, Memory.admits]
  have keepsLarge : admitsAll [larger, none, notSpam] (.ok large) = true := by
    rw [admitted large false (by decide +kernel)]
    decide +kernel
  have dropsSmall : admitsAll [larger, none, notSpam] (.ok small) = false := by
    rw [admitted small false (by decide +kernel)]
    decide +kernel
  have dropsSpam : admitsAll [larger, none, notSpam] (.ok spam) = false := by
    rw [admitted spam true (by decide +kernel), Bool.not_true, Bool.and_false]
  rw [known, rowsAskedFor]
  show ([.ok large, failure, .ok small, .ok spam].filter _).map _ = _
  rw [List.filter_cons, List.filter_cons, List.filter_cons, List.filter_cons, keepsLarge, dropsSmall,
    dropsSpam]
  rfl

end QuerySet

end Sift
