/-
**A walk is safe with any store.**

A store may answer whatever it likes: pages that are too long or empty, failures, next positions that
repeat, go back or jump. What a walk does then is told by the requests it sends and by what the store
answers to them (`Store.replay`). These exchanges are in good order whatever the answers are
(`Exchange.Orderly`): each one starts where the one before says to go on, and asks for as many
entries as are still wanted. All that is said of a walk here follows from that.

* `Exchange.Orderly` — the exchanges of a walk, one behind another.
* `Cursor.Tracks.next`, `Cursor.Tracks.steps` — one call of `next`, and any number of them.
* `Cursor.exists_steps_eq_drain` — to give all entries takes finitely many calls.
* `Cursor.walk_safe` — what a walk asks for and gives, however often it is asked.
-/

import Mathlib.Data.List.Chain
import Sift.Proofs.Store.Paging

namespace Sift

/-! ### Exchanges -/

/-- A request, and what the store answered. -/
structure Exchange where
  request : Request
  answer : Entry Page

namespace Exchange

/-- The entries that an exchange brings: those of the page, as many as were wanted, or the failure
of the page alone. -/
def entries (exchange : Exchange) : List (Entry Item) :=
  match exchange.answer with
  | .error error => [.error error]
  | .ok page =>
    match exchange.request.maxItems with
    | none => page.entries
    | some most => page.entries.take most

/-- Where to go on behind an exchange, if the page brought something and names a position behind its
own. -/
def following? (exchange : Exchange) : Option Nat :=
  match exchange.answer with
  | .error _ => none
  | .ok page =>
    (page.next.map UInt64.toNat).filter fun next =>
      !exchange.entries.isEmpty && exchange.request.offset < next

/-- Whether nothing is to come behind an exchange: the page failed, brought nothing, was the last
one, or names no position behind its own. -/
def Final (exchange : Exchange) : Prop :=
  match exchange.answer with
  | .error _ => True
  | .ok page => exchange.entries = [] ∨ ∀ next ∈ page.next, next.toNat ≤ exchange.request.offset

variable {exchange : Exchange} {position : Nat}

theorem following?_eq_none_iff : exchange.following? = none ↔ exchange.Final := by
  unfold following? Final
  cases exchange.answer with
  | error error => exact iff_of_true rfl trivial
  | ok page =>
    by_cases nothing : exchange.entries = []
    · simp [nothing]
    · simp [nothing, Option.filter_eq_none_iff]

/-- An exchange that says where to go on brought something, and that is a position of 64 bits behind
its own. -/
theorem of_following? (next : exchange.following? = some position) :
    exchange.entries ≠ [] ∧ exchange.request.offset < position ∧ position < UInt64.size := by
  unfold following? at next
  cases answer : exchange.answer with
  | error error => rw [answer] at next; cases next
  | ok page =>
    rw [answer] at next
    obtain ⟨given, further⟩ := Option.filter_eq_some_iff.mp next
    obtain ⟨word, -, rfl⟩ := Option.map_eq_some_iff.mp given
    simp only [Bool.and_eq_true, Bool.not_eq_true', List.isEmpty_eq_false_iff,
      decide_eq_true_eq] at further
    exact ⟨further.1, further.2, word.toNat_lt_size⟩

/-- The entries of several exchanges, in order. -/
def allEntries (exchanges : List Exchange) : List (Entry Item) :=
  exchanges.flatMap entries

theorem allEntries_concat (earlier : List Exchange) (exchange : Exchange) :
    allEntries (earlier ++ [exchange]) = allEntries earlier ++ exchange.entries := by
  simp [allEntries]

end Exchange

/-- The request for a page at a position, when there were exchanges before: for as many entries as
are still wanted. -/
def Request.after (first : Request) (earlier : List Exchange) (offset : Nat) : Request :=
  { first with
    offset
    maxItems := first.maxItems.map (· - (Exchange.allEntries earlier).length) }

namespace Exchange

/-- Where a walk goes on behind some exchanges, if it does. -/
def resume? (first : Request) (exchanges : List Exchange) : Option Nat :=
  match exchanges.getLast? with
  | none => some first.offset
  | some last => last.following?

/-- **Exchanges in good order**: each starts where the one before says to go on, and asks for as many
entries as are still wanted, if any are. -/
inductive Orderly (first : Request) : List Exchange → Prop
  | start : Orderly first []
  | step {earlier : List Exchange} (exchange : Exchange) :
      Orderly first earlier → resume? first earlier = some exchange.request.offset →
      exchange.request = first.after earlier exchange.request.offset →
      exchange.request.maxItems ≠ some 0 → Orderly first (earlier ++ [exchange])

theorem resume?_concat (first : Request) (earlier : List Exchange) (exchange : Exchange) :
    resume? first (earlier ++ [exchange]) = exchange.following? := by
  simp [resume?]

/-- What is last in a list of which a split is known stands behind the split or at it. -/
theorem concat_eq_append_cons {α : Type} {front before after : List α} {last here : α}
    (same : front ++ [last] = before ++ here :: after) :
    (after = [] ∧ before = front ∧ here = last) ∨
      ∃ rest, after = rest ++ [last] ∧ front = before ++ here :: rest := by
  rcases List.eq_nil_or_concat' after with rfl | ⟨rest, other, rfl⟩
  · obtain ⟨fronts, ends⟩ := List.append_inj' same rfl
    exact .inl ⟨rfl, fronts.symm, (List.singleton_inj.mp ends).symm⟩
  · rw [← List.cons_append, ← List.append_assoc] at same
    obtain ⟨fronts, ends⟩ := List.append_inj' same rfl
    exact .inr ⟨rest, by rw [List.singleton_inj.mp ends], fronts⟩

namespace Orderly

variable {first : Request} {exchanges : List Exchange}

/-- Each request is made as the exchanges before it demand. -/
theorem asked (orderly : Orderly first exchanges) {earlier later : List Exchange}
    {exchange : Exchange} (split : exchanges = earlier ++ exchange :: later) :
    exchange.request = first.after earlier exchange.request.offset ∧
      exchange.request.maxItems ≠ some 0 := by
  induction orderly generalizing later with
  | start => simp at split
  | step last _ _ demanded wanted ih =>
    rcases concat_eq_append_cons split with ⟨-, rfl, rfl⟩ | ⟨rest, -, within⟩
    · exact ⟨demanded, wanted⟩
    · exact ih within

/-- The walk starts at the first position. -/
theorem starts (orderly : Orderly first exchanges) {exchange : Exchange} {later : List Exchange}
    (split : exchanges = exchange :: later) : exchange.request.offset = first.offset := by
  induction orderly generalizing later with
  | start => cases split
  | @step earlier last _ resumed _ _ ih =>
    cases earlier with
    | nil =>
      cases split
      exact (Option.some.inj resumed).symm
    | cons head rest =>
      cases split
      exact ih rfl

/-- Each exchange but the last says where the next one starts. -/
theorem follows (orderly : Orderly first exchanges) :
    exchanges.IsChain fun exchange next => exchange.following? = some next.request.offset := by
  induction orderly with
  | start => exact .nil
  | step last _ resumed _ _ ih =>
    refine List.IsChain.append ih (.singleton last) fun before isLast next isNext => ?_
    obtain rfl : last = next := by simpa using isNext
    unfold resume? at resumed
    rw [Option.mem_def.mp isLast] at resumed
    exact resumed

/-- **The positions of the requests strictly increase.** -/
theorem advances (orderly : Orderly first exchanges) :
    (exchanges.map fun exchange => exchange.request.offset).Pairwise (· < ·) := by
  rw [← List.isChain_iff_pairwise, List.isChain_map]
  exact orderly.follows.imp fun exchange next following => (of_following? following).2.1

/-- Nothing comes behind a page that failed. -/
theorem last_of_failed (orderly : Orderly first exchanges) {earlier later : List Exchange}
    {exchange : Exchange} (split : exchanges = earlier ++ exchange :: later) {error : RemoteError}
    (failed : exchange.answer = .error error) : later = [] := by
  cases later with
  | nil => rfl
  | cons next rest =>
    have follows := orderly.follows
    rw [split] at follows
    have following := List.isChain_iff_forall_rel_of_append_cons_cons.mp follows rfl
    simp [following?, failed] at following

/-! ### How many -/

/-- Where a walk goes on, each page so far has brought something, and a step forwards. -/
theorem of_resume? (orderly : Orderly first exchanges) {position : Nat}
    (resumed : resume? first exchanges = some position) :
    exchanges.length ≤ (allEntries exchanges).length ∧
      first.offset + exchanges.length ≤ position ∧
      (exchanges ≠ [] → position < UInt64.size) := by
  induction orderly generalizing position with
  | start => exact ⟨Nat.zero_le _, Nat.le_of_eq (Option.some.inj resumed), fun some => absurd rfl some⟩
  | step last _ before _ _ ih =>
    obtain ⟨brought, further, -⟩ := ih before
    rw [resume?_concat] at resumed
    obtain ⟨something, forwards, bounded⟩ := of_following? resumed
    have more := List.length_pos_of_ne_nil something
    rw [allEntries_concat, List.length_append, List.length_append, List.length_singleton]
    exact ⟨by omega, by omega, fun _ => bounded⟩

/-- An exchange brings no more than it asks for. -/
theorem length_entries_le {exchange : Exchange} {most : Nat}
    (asked : exchange.request.maxItems = some most) (wanted : most ≠ 0) :
    exchange.entries.length ≤ most := by
  unfold entries
  cases exchange.answer with
  | error error => exact Nat.one_le_iff_ne_zero.mpr wanted
  | ok page =>
    rw [asked]
    exact List.length_take_le _ _

/-- **With a limit there are no more entries than that, and no more requests.** -/
theorem length_le (orderly : Orderly first exchanges) {most : Nat}
    (limited : first.maxItems = some most) :
    (allEntries exchanges).length ≤ most ∧ exchanges.length ≤ most := by
  cases orderly with
  | start => exact ⟨Nat.zero_le _, Nat.zero_le _⟩
  | @step earlier last before resumed demanded wanted =>
    have asked : last.request.maxItems = some (most - (allEntries earlier).length) := by
      rw [demanded, Request.after, limited]
      rfl
    have left : most - (allEntries earlier).length ≠ 0 := fun zero => wanted (asked.trans (zero ▸ rfl))
    have brought := length_entries_le asked left
    have pages := (before.of_resume? resumed).1
    rw [allEntries_concat, List.length_append, List.length_append, List.length_singleton]
    exact ⟨by omega, by omega⟩

/-- There are no more requests than positions from the first one on. -/
theorem length_le_positions (orderly : Orderly first exchanges) :
    exchanges.length ≤ UInt64.size - first.offset + 1 := by
  cases orderly with
  | start => exact Nat.zero_le _
  | @step earlier last before resumed _ _ =>
    obtain ⟨-, further, bounded⟩ := before.of_resume? resumed
    rw [List.length_append, List.length_singleton]
    cases earlier with
    | nil => exact Nat.le_add_left 1 _
    | cons head rest =>
      have within := bounded (List.cons_ne_nil head rest)
      omega

end Orderly

end Exchange

/-! ### One call of `next`, and any number -/

namespace Cursor

/-- What a walk is like after some exchanges, with some entries given: all that came is given or in
the buffer, and as long as it is not finished, it knows where to go on and how many entries came. -/
structure Tracks (first : Request) (exchanges : List Exchange) (given : List (Entry Item))
    (cursor : Cursor) : Prop where
  request : cursor.request = first
  orderly : Exchange.Orderly first exchanges
  held : given ++ cursor.buffer = Exchange.allEntries exchanges
  going : cursor.finished = false →
    Exchange.resume? first exchanges = some cursor.offset ∧
      cursor.received = (Exchange.allEntries exchanges).length

variable {first : Request} {exchanges : List Exchange} {given : List (Entry Item)}
  {cursor : Cursor} {answer : Entry Page}

theorem tracks_start (first : Request) : Tracks first [] [] (start first) :=
  ⟨rfl, .start, rfl, fun _ => ⟨rfl, rfl⟩⟩

/-- The buffer holds what an exchange brings. -/
theorem buffer_receive (cursor : Cursor) (answer : Entry Page) :
    (cursor.receive answer).buffer = Exchange.entries ⟨cursor.pageRequest, answer⟩ := by
  cases answer with
  | error error => rfl
  | ok page =>
    simp only [receive]
    split
    · rfl
    · split <;> rfl

/-- A walk that goes on does so where the exchange says, and has counted what came. -/
theorem of_going_receive (going : (cursor.receive answer).finished = false) :
    Exchange.following? ⟨cursor.pageRequest, answer⟩ = some (cursor.receive answer).offset ∧
      (cursor.receive answer).received
        = cursor.received + (Exchange.entries ⟨cursor.pageRequest, answer⟩).length := by
  cases answer with
  | error error => cases going
  | ok page =>
    have brought : Exchange.entries ⟨cursor.pageRequest, .ok page⟩ = cursor.cut page.entries := rfl
    unfold Exchange.following?
    rw [brought]
    cases next : page.next with
    | none => simp [receive, next] at going
    | some word =>
      by_cases moves : (!(cursor.cut page.entries).isEmpty && cursor.offset < word.toNat) = true
      · simp only [receive, next, moves, if_true]
        exact ⟨Option.filter_eq_some_iff.mpr ⟨rfl, moves⟩, trivial⟩
      · simp [receive, next, moves] at going

/-- An answer is one more exchange. -/
theorem Tracks.receive (tracks : Tracks first exchanges given cursor)
    (unbuffered : cursor.buffer = []) (going : cursor.finished = false)
    (wanting : cursor.remaining ≠ some 0) (answer : Entry Page) :
    Tracks first (exchanges ++ [⟨cursor.pageRequest, answer⟩]) given (cursor.receive answer) := by
  obtain ⟨resumed, received⟩ := tracks.going going
  have demanded : cursor.pageRequest = first.after exchanges cursor.offset := by
    rw [pageRequest, remaining, tracks.request, received]
    rfl
  have held : given = Exchange.allEntries exchanges := by
    rw [← tracks.held, unbuffered, List.append_nil]
  refine ⟨(request_receive cursor answer).trans tracks.request,
    .step _ tracks.orderly resumed demanded wanting, ?_, fun further => ?_⟩
  · rw [buffer_receive, Exchange.allEntries_concat, held]
  · obtain ⟨following, counted⟩ := of_going_receive further
    rw [Exchange.resume?_concat, Exchange.allEntries_concat, List.length_append, ← received]
    exact ⟨following, counted⟩

/-- To give an entry changes nothing but what is given. -/
theorem Tracks.pop (tracks : Tracks first exchanges given cursor) :
    Tracks first exchanges (given ++ cursor.pop.1.toList) cursor.pop.2 := by
  unfold Cursor.pop
  cases buffer : cursor.buffer with
  | nil => exact (List.append_nil given).symm ▸ tracks
  | cons entry rest =>
    refine ⟨tracks.request, tracks.orderly, ?_, tracks.going⟩
    have held := tracks.held
    rw [buffer] at held
    simpa using held

variable {σ : Type} [Store σ]

/-- **One call of `next`** gives an entry that came before, or ends the walk, with no request; or it
sends one, and then all entries that came before are given. -/
theorem Tracks.next (tracks : Tracks first exchanges given cursor) (session : Session σ) :
    ((cursor.next session).2 = session ∧
      Tracks first exchanges (given ++ (cursor.next session).1.1.toList)
        (cursor.next session).1.2) ∨
    ∃ request, given = Exchange.allEntries exchanges ∧
      (cursor.next session).2 = (Session.search request session).2 ∧
      Tracks first (exchanges ++ [⟨request, (Store.search request session.store).1⟩])
        (given ++ (cursor.next session).1.1.toList) (cursor.next session).1.2 := by
  show ((cursor.refill session).2 = session ∧
      Tracks first exchanges (given ++ (cursor.refill session).1.pop.1.toList)
        (cursor.refill session).1.pop.2) ∨
    ∃ request, given = Exchange.allEntries exchanges ∧
      (cursor.refill session).2 = (Session.search request session).2 ∧
      Tracks first (exchanges ++ [⟨request, (Store.search request session.store).1⟩])
        (given ++ (cursor.refill session).1.pop.1.toList) (cursor.refill session).1.pop.2
  unfold refill
  split
  · rename_i needed
    obtain ⟨unbuffered, going⟩ : cursor.buffer = [] ∧ cursor.finished = false := by
      simpa using needed
    unfold fetchPage
    split
    · left
      refine ⟨rfl, Tracks.pop ?_⟩
      exact ⟨tracks.request, tracks.orderly, tracks.held, fun going => nomatch going⟩
    · rename_i wanting
      right
      refine ⟨cursor.pageRequest, ?_, rfl, (tracks.receive unbuffered going wanting _).pop⟩
      rw [← tracks.held, unbuffered, List.append_nil]
  · exact .inl ⟨rfl, tracks.pop⟩

end Cursor

namespace Store

variable {σ : Type} [Store σ]

/-- What a store answers to requests made one after another, and what it has become then. -/
def replay : List Request → σ → List Exchange × σ
  | [], store => ([], store)
  | request :: rest, store =>
    let (answer, store) := Store.search request store
    let (exchanges, store) := replay rest store
    (⟨request, answer⟩ :: exchanges, store)

end Store

namespace Cursor

variable {σ : Type} [Store σ]

/-- The entries that come with a number of calls of `next`, and the walk after them. -/
def steps : Nat → Cursor → Query σ (List (Entry Item) × Cursor)
  | 0, cursor => return ([], cursor)
  | count + 1, cursor => do
    let (entry, cursor) ← cursor.next
    let (entries, cursor) ← steps count cursor
    return (entry.toList ++ entries, cursor)

variable {first : Request} {exchanges : List Exchange} {given : List (Entry Item)}
  {cursor : Cursor}

theorem steps_succ (count : Nat) (cursor : Cursor) (session : Session σ) :
    cursor.steps (count + 1) session
      = (((cursor.next session).1.1.toList
            ++ ((cursor.next session).1.2.steps count (cursor.next session).2).1.1,
          ((cursor.next session).1.2.steps count (cursor.next session).2).1.2),
        ((cursor.next session).1.2.steps count (cursor.next session).2).2) := rfl

/-- Calls come one after another. -/
theorem steps_add (front back : Nat) (cursor : Cursor) (session : Session σ) :
    cursor.steps (front + back) session
      = (((cursor.steps front session).1.1
            ++ ((cursor.steps front session).1.2.steps back (cursor.steps front session).2).1.1,
          ((cursor.steps front session).1.2.steps back (cursor.steps front session).2).1.2),
        ((cursor.steps front session).1.2.steps back (cursor.steps front session).2).2) := by
  induction front generalizing cursor session with
  | zero => rw [Nat.zero_add]; rfl
  | succ front ih =>
    rw [Nat.succ_add, steps_succ, steps_succ, ih]
    simp only [List.append_assoc]

/-- **Any number of calls.** The session has recorded the requests, and the store has answered them
one after another. -/
theorem Tracks.steps (tracks : Tracks first exchanges given cursor) (count : Nat)
    (session : Session σ) :
    ∃ requests, (cursor.steps count session).2
        = ⟨(Store.replay requests session.store).2, session.calls ++ requests.map .search⟩ ∧
      Tracks first (exchanges ++ (Store.replay requests session.store).1)
        (given ++ (cursor.steps count session).1.1) (cursor.steps count session).1.2 := by
  induction count generalizing cursor session exchanges given with
  | zero =>
    refine ⟨[], ?_, ?_⟩
    · show session = ⟨session.store, session.calls ++ []⟩
      rw [List.append_nil]
    · show Tracks first (exchanges ++ []) (given ++ []) cursor
      rwa [List.append_nil, List.append_nil]
  | succ count ih =>
    rw [steps_succ]
    rcases tracks.next session with ⟨same, tracks⟩ | ⟨request, -, sent, tracks⟩
    · obtain ⟨requests, calls, tracks⟩ := ih tracks (cursor.next session).2
      rw [same] at calls tracks ⊢
      rw [List.append_assoc] at tracks
      exact ⟨requests, calls, tracks⟩
    · obtain ⟨requests, calls, tracks⟩ := ih tracks (cursor.next session).2
      rw [sent] at calls tracks ⊢
      refine ⟨request :: requests, ?_, ?_⟩
      · rw [calls]
        show Session.mk _ ((session.calls ++ [.search request]) ++ _) = Session.mk _ (_ ++ _)
        rw [List.append_assoc]
        rfl
      · rw [List.append_assoc, List.append_assoc] at tracks
        exact tracks

/-! ### The end of a walk -/

/-- Whether a walk sends no more requests: it is finished, or has all the entries that it wants. -/
def Quiet (cursor : Cursor) : Prop :=
  cursor.finished = true ∨ cursor.remaining = some 0

/-- A walk that sends no more requests does not start to again. -/
theorem Quiet.next (quiet : cursor.Quiet) (session : Session σ) :
    (cursor.next session).2 = session ∧ (cursor.next session).1.2.Quiet := by
  have popped : ∀ filled : Cursor, filled.Quiet → filled.pop.2.Quiet := by
    intro filled quiet
    unfold pop
    cases filled.buffer with
    | nil => exact quiet
    | cons entry rest => exact quiet
  show (cursor.refill session).2 = session ∧ (cursor.refill session).1.pop.2.Quiet
  unfold refill
  split
  · rename_i needed
    have going : cursor.finished ≠ true := by
      have both : cursor.buffer = [] ∧ cursor.finished = false := by simpa using needed
      simp [both.2]
    unfold fetchPage
    rw [if_pos (quiet.resolve_left going)]
    exact ⟨rfl, popped _ (.inl rfl)⟩
  · exact ⟨rfl, popped _ quiet⟩

theorem Quiet.steps (quiet : cursor.Quiet) (count : Nat) (session : Session σ) :
    (cursor.steps count session).2 = session := by
  induction count generalizing cursor session with
  | zero => rfl
  | succ count ih =>
    obtain ⟨same, quiet⟩ := quiet.next session
    rw [steps_succ, same]
    exact ih quiet session

/-- Behind a last exchange, or with as many entries as were wanted, a walk sends no more requests. -/
theorem Tracks.quiet (tracks : Tracks first exchanges given cursor)
    (ended : (∃ last ∈ exchanges.getLast?, last.Final) ∨
      ∃ most, first.maxItems = some most ∧ most ≤ (Exchange.allEntries exchanges).length) :
    cursor.Quiet := by
  cases going : cursor.finished with
  | true => exact .inl going
  | false =>
    obtain ⟨resumed, received⟩ := tracks.going going
    rcases ended with ⟨last, isLast, final⟩ | ⟨most, limited, enough⟩
    · rw [Exchange.resume?, Option.mem_def.mp isLast] at resumed
      exact nomatch (Exchange.following?_eq_none_iff.mpr final).symm.trans resumed
    · right
      rw [remaining, tracks.request, limited, received, Option.map_some,
        Nat.sub_eq_zero_of_le enough]

/-- A walk that has nothing left gives nothing. -/
theorem steps_of_spent (ended : cursor.finished = true) (unbuffered : cursor.buffer = [])
    (count : Nat) (session : Session σ) :
    cursor.steps count session = (([], cursor), session) := by
  have nothing : cursor.next session = ((none, cursor), session) := by
    show (((cursor.refill session).1.pop), (cursor.refill session).2) = _
    have same : cursor.refill session = (cursor, session) := by
      rw [refill, ended, Bool.not_true, Bool.and_false]
      rfl
    rw [same, pop, unbuffered]
  induction count with
  | zero => rfl
  | succ count ih =>
    rw [steps_succ, nothing, ih]
    rfl

/-- **To give all entries takes finitely many calls**, and nothing is left then. -/
theorem exists_steps_eq_drain (cursor : Cursor) (session : Session σ) :
    ∃ enough spent, spent.finished = true ∧ spent.buffer = [] ∧
      cursor.steps enough session
        = (((cursor.drain session).1, spent), (cursor.drain session).2) := by
  fun_induction cursor.drain session with
  | case1 cursor session after session' step =>
    have popped : (cursor.refill session).1.pop = (none, after) := congrArg Prod.fst step
    obtain ⟨unbuffered, rfl⟩ : (cursor.refill session).1.buffer = [] ∧
        (cursor.refill session).1 = after := by
      unfold pop at popped
      split at popped
      · rename_i empty
        exact ⟨empty, congrArg Prod.snd popped⟩
      · cases popped
    refine ⟨1, _, finished_refill cursor session unbuffered, unbuffered, ?_⟩
    rw [steps_succ, step]
    rfl
  | case2 cursor session entry after session' step rest session'' drained ih =>
    obtain ⟨enough, spent, ended, unbuffered, same⟩ := ih
    refine ⟨enough + 1, spent, ended, unbuffered, ?_⟩
    rw [steps_succ, step, same, drained]
    rfl

/-! ### Safety -/

/-- **What is safe about a walk**, told by its exchanges with the store and by the entries that it
has given. -/
structure Safe (first : Request) (exchanges : List Exchange) (given : List (Entry Item)) :
    Prop where
  /-- A request differs from the first one in its position and in how many entries are still wanted:
  as many as at first, less those that came. It is never made for none. -/
  asked : ∀ earlier exchange later, exchanges = earlier ++ exchange :: later →
    exchange.request = first.after earlier exchange.request.offset ∧
      exchange.request.maxItems ≠ some 0
  starts : ∀ exchange later, exchanges = exchange :: later →
    exchange.request.offset = first.offset
  follows : exchanges.IsChain fun exchange next =>
    exchange.following? = some next.request.offset
  advances : (exchanges.map fun exchange => exchange.request.offset).Pairwise (· < ·)
  /-- The entries are those that came, in order. -/
  inOrder : given <+: Exchange.allEntries exchanges
  limited : ∀ most, first.maxItems = some most →
    given.length ≤ most ∧ exchanges.length ≤ most
  /-- A page that fails is the last, and its failure is the last entry. -/
  failed : ∀ earlier exchange later error, exchanges = earlier ++ exchange :: later →
    exchange.answer = .error error → later = [] ∧
      Exchange.allEntries exchanges = Exchange.allEntries earlier ++ [.error error]
  /-- Positions are numbers of 64 bits, so that there are only so many requests. -/
  finite : exchanges.length ≤ UInt64.size - first.offset + 1

theorem Tracks.safe (tracks : Tracks first exchanges given cursor) :
    Safe first exchanges given := by
  have orderly := tracks.orderly
  have inOrder : given <+: Exchange.allEntries exchanges := ⟨cursor.buffer, tracks.held⟩
  refine ⟨fun _ _ _ => orderly.asked, fun _ _ => orderly.starts, orderly.follows,
    orderly.advances, inOrder, fun most limited => ?_, fun earlier exchange later error split
      failed => ?_, orderly.length_le_positions⟩
  · obtain ⟨entries, pages⟩ := orderly.length_le limited
    exact ⟨Nat.le_trans inOrder.length_le entries, pages⟩
  · have last := orderly.last_of_failed split failed
    refine ⟨last, ?_⟩
    rw [split, last, Exchange.allEntries_concat, Exchange.entries, failed]

/-- **A walk is safe with any store**, however often it is asked for the next entry. Its requests
differ from the first one in the position and in how many entries are still wanted, and the positions
strictly increase. The entries are those of the pages, in order and within the limit. A request is
only sent when all that came before is given, and none behind a page that failed, brought nothing or
does not lead on, or when enough entries have come. So to give all entries takes finitely many
calls. -/
theorem walk_safe (first : Request) (session : Session σ) :
    (∀ count, ∃ requests,
      let walk := (start first).steps count session
      let next := (start first).steps (count + 1) session
      let exchanges := (Store.replay requests session.store).1
      walk.2 = ⟨(Store.replay requests session.store).2,
          session.calls ++ requests.map .search⟩ ∧
        Safe first exchanges walk.1.1 ∧
        (next.2.calls = walk.2.calls ∨
          walk.1.1 = Exchange.allEntries exchanges ∧
            ∃ request, next.2.calls = walk.2.calls ++ [.search request]) ∧
        ((∃ last ∈ exchanges.getLast?, last.Final) ∨
            (∃ most, first.maxItems = some most ∧
              most ≤ (Exchange.allEntries exchanges).length) →
          ∀ further, ((start first).steps (count + further) session).2 = walk.2)) ∧
    ∃ requests enough,
      let drained := (start first).drain session
      let exchanges := (Store.replay requests session.store).1
      drained.2 = ⟨(Store.replay requests session.store).2,
          session.calls ++ requests.map .search⟩ ∧
        Safe first exchanges drained.1 ∧ drained.1 = Exchange.allEntries exchanges ∧
        ∀ count, enough ≤ count →
          ((start first).steps count session).1.1 = drained.1 ∧
            ((start first).steps count session).2 = drained.2 := by
  constructor
  · intro count
    obtain ⟨requests, sent, tracks⟩ := (tracks_start first).steps count session
    refine ⟨requests, sent, tracks.safe, ?_, fun ended further => ?_⟩
    · rw [steps_add]
      rcases tracks.next ((start first).steps count session).2 with
        ⟨same, -⟩ | ⟨request, all, asked, -⟩
      · exact .inl (congrArg Session.calls same)
      · exact .inr ⟨all, request, congrArg Session.calls asked⟩
    · rw [steps_add]
      exact (tracks.quiet ended).steps further _
  · obtain ⟨enough, spent, ended, unbuffered, same⟩ := exists_steps_eq_drain (start first) session
    obtain ⟨requests, sent, tracks⟩ := (tracks_start first).steps enough session
    rw [same] at sent tracks
    refine ⟨requests, enough, sent, tracks.safe, ?_, fun count later => ?_⟩
    · have held := tracks.held
      rwa [unbuffered, List.append_nil] at held
    · obtain ⟨further, rfl⟩ := Nat.exists_eq_add_of_le later
      rw [steps_add, same, steps_of_spent ended unbuffered]
      exact ⟨List.append_nil _, rfl⟩

end Cursor

end Sift
