/-
**Paging loses nothing and repeats nothing.**

A store serves a list honestly when it answers every position with some of what follows there, as
much or as little as it likes, and says truly where to go on (`Store.Serves`). Whatever the lengths
of its pages, a walk gives exactly the part of the list that was asked for (`Request.portion`).

What carries the proof is what a walk has ahead of it (`Cursor.ahead`): what is in its buffer, and
behind that what it has not asked for yet, cut down to how many entries may still come. Asking for a
page changes nothing in that, and giving an entry takes the first one off.

* `Cursor.ahead_receive` — an honest page moves entries to the buffer and changes nothing ahead.
* `Cursor.next_spec`, `Cursor.drain_eq_ahead` — one step of a walk, and all of them.
* `Memory.serves` — a store in memory is honest, with pages of any size but zero.
-/

import Mathlib.Data.List.Basic
import Sift.Store.Cursor
import Sift.Store.Memory

namespace Sift

/-! ### Stores that serve a list -/

/-- The part of a list that a request asks for, over all pages. -/
def Request.portion {α : Type} (request : Request) (served : List α) : List α :=
  match request.maxItems with
  | none => served.drop request.offset
  | some most => (served.drop request.offset).take most

theorem Request.map_portion {α β : Type} (request : Request) (f : α → β) (served : List α) :
    (request.portion served).map f = request.portion (served.map f) := by
  unfold portion
  cases request.maxItems with
  | none => exact List.map_drop
  | some most => rw [List.map_take, List.map_drop]

/-- Whether a page is an honest answer at a position of a list. It holds some of what follows there,
of any length but zero, and the position behind that unless the list ends there; behind the end of
the list it is an empty last page. -/
def Page.Honest (served : List (Entry Item)) (offset : Nat) (page : Page) : Prop :=
  if offset < served.length then
    ∃ count, 0 < count ∧ page.entries = (served.drop offset).take count ∧
      page.next.map UInt64.toNat =
        if offset + page.entries.length < served.length then some (offset + page.entries.length)
        else none
  else page = .last []

namespace Page.Honest

variable {served : List (Entry Item)} {offset : Nat} {page : Page}

/-- An honest last page holds all that follows. -/
theorem of_last (honest : page.Honest served offset) (last : page.next = none) :
    page.entries = served.drop offset := by
  unfold Honest at honest
  split at honest
  · obtain ⟨count, -, entries, next⟩ := honest
    rw [last] at next
    split at next
    · cases next
    · rename_i complete
      have length : page.entries.length = min count (served.length - offset) := by
        rw [entries, List.length_take, List.length_drop]
      rw [entries, List.take_of_length_le]
      rw [List.length_drop]
      omega
  · rename_i outside
    rw [honest, List.drop_eq_nil_of_le (Nat.le_of_not_lt outside)]
    rfl

/-- An honest page with others behind it holds something, and the rest is behind it. -/
theorem of_next (honest : page.Honest served offset) {following : UInt64}
    (next : page.next = some following) :
    page.entries ≠ [] ∧ offset < following.toNat ∧
      served.drop offset = page.entries ++ served.drop following.toNat := by
  unfold Honest at honest
  split at honest
  · rename_i inside
    obtain ⟨count, positive, entries, position⟩ := honest
    rw [next] at position
    split at position
    · have behind : following.toNat = offset + page.entries.length := Option.some.inj position
      have length : page.entries.length = min count (served.length - offset) := by
        rw [entries, List.length_take, List.length_drop]
      have front : (served.drop offset).take page.entries.length = page.entries := by
        rw [length, ← List.length_drop, ← List.take_eq_take_min, ← entries]
      refine ⟨List.ne_nil_of_length_pos (by omega), by omega, ?_⟩
      calc served.drop offset
          = (served.drop offset).take page.entries.length
            ++ (served.drop offset).drop page.entries.length := (List.take_append_drop _ _).symm
        _ = page.entries ++ served.drop following.toNat := by rw [front, List.drop_drop, behind]
    · cases position
  · subst honest
    cases next

end Page.Honest

namespace Store

variable {σ : Type} [Store σ]

/-- What a store may become while pages of a search are asked for, at any positions. -/
inductive Reaches (first : Request) (store : σ) : σ → Prop
  | start : Reaches first store store
  | search {reached : σ} (offset : Nat) (maxItems : Option Nat) :
    Reaches first store reached →
      Reaches first store (Store.search { first with offset, maxItems } reached).2

/-- **Whether a store serves a list for a search**: however often it was asked before, it answers
honestly at every position. It need not answer a request for no items at all. -/
def Serves (first : Request) (served : List (Entry Item)) (store : σ) : Prop :=
  ∀ reached, Reaches first store reached → ∀ offset maxItems, maxItems ≠ some 0 →
    ∃ page, (Store.search { first with offset, maxItems } reached).1 = .ok page ∧
      page.Honest served offset

variable {first : Request} {served : List (Entry Item)} {store : σ}

/-- A store that has been asked for a page serves the same list as before. -/
theorem Serves.search (serves : Serves first served store) (offset : Nat)
    (maxItems : Option Nat) :
    Serves first served (Store.search { first with offset, maxItems } store).2 := by
  have reaches : ∀ reached,
      Reaches first (Store.search { first with offset, maxItems } store).2 reached →
        Reaches first store reached := by
    intro reached run
    induction run with
    | start => exact .search offset maxItems .start
    | search offset maxItems _ ih => exact .search offset maxItems ih
  exact fun reached run => serves reached (reaches reached run)

end Store

/-! ### What a walk has ahead of it -/

namespace Cursor

variable {served : List (Entry Item)} {cursor : Cursor}

/-- The entries that a walk is still to give, where the store serves a list. -/
def ahead (served : List (Entry Item)) (cursor : Cursor) : List (Entry Item) :=
  cursor.buffer ++ if cursor.finished then [] else cursor.cut (served.drop cursor.offset)

theorem ahead_start (first : Request) (served : List (Entry Item)) :
    (start first).ahead served = first.portion served := by
  unfold ahead cut remaining Request.portion
  cases most : first.maxItems <;> simp [start, most]

/-- What comes in two parts is cut like the whole, the second part with fewer entries to come. -/
theorem cut_append (cursor : Cursor) (front back : List (Entry Item)) :
    cursor.cut (front ++ back) = cursor.cut front ++
      { cursor with received := cursor.received + (cursor.cut front).length }.cut back := by
  unfold cut remaining
  cases cursor.request.maxItems with
  | none => rfl
  | some most =>
    show (front ++ back).take (most - cursor.received)
      = front.take (most - cursor.received) ++
        back.take (most - (cursor.received + (front.take (most - cursor.received)).length))
    rw [List.take_append, List.length_take]
    congr 2
    omega

theorem cut_ne_nil (wanting : cursor.remaining ≠ some 0) {entries : List (Entry Item)}
    (given : entries ≠ []) : cursor.cut entries ≠ [] := by
  unfold cut
  cases most : cursor.remaining with
  | none => exact given
  | some most =>
    intro empty
    rcases List.take_eq_nil_iff.mp empty with zero | none
    · exact wanting (zero ▸ most)
    · exact given none

/-- **An honest page changes nothing in what is ahead.** It may hold more entries than may still
come: then those beyond are dropped, and nothing more is ahead of the walk than its buffer. -/
theorem ahead_receive (unbuffered : cursor.buffer = []) (going : cursor.finished = false)
    (wanting : cursor.remaining ≠ some 0) {page : Page}
    (honest : page.Honest served cursor.offset) :
    (cursor.receive (.ok page)).ahead served = cursor.ahead served := by
  have before : cursor.ahead served = cursor.cut (served.drop cursor.offset) := by
    simp [ahead, unbuffered, going]
  rw [before]
  cases next : page.next with
  | none =>
    rw [← honest.of_last next]
    simp [receive, next, ahead]
  | some following =>
    -- Entries that are cut off never come later: as many as may still come are in the buffer then.
    obtain ⟨nonempty, further, split⟩ := honest.of_next next
    have moves : (!(cursor.cut page.entries).isEmpty && cursor.offset < following.toNat)
        = true := by
      simp [cut_ne_nil wanting nonempty, further]
    rw [split, cut_append]
    simp only [receive, next, moves, if_true, ahead, going]
    rfl

/-! ### One step of a walk, and all of them -/

theorem request_receive (cursor : Cursor) (answer : Entry Page) :
    (cursor.receive answer).request = cursor.request := by
  cases answer with
  | error error => rfl
  | ok page =>
    simp only [receive]
    split
    · rfl
    · split <;> rfl

/-- Where an answer brings nothing, the walk is over. -/
theorem finished_receive {answer : Entry Page} (nothing : (cursor.receive answer).buffer = []) :
    (cursor.receive answer).finished = true := by
  cases answer with
  | error error => rfl
  | ok page =>
    simp only [receive] at nothing ⊢
    split
    · rfl
    · split
      · rename_i position next moves
        simp only [next, moves, if_true] at nothing
        simp [nothing] at moves
      · rfl

variable {σ : Type} [Store σ] {session : Session σ}

/-- Where there is nothing to give after a refill, the walk is over, whatever the store answered. -/
theorem finished_refill (cursor : Cursor) (session : Session σ)
    (nothing : (cursor.refill session).1.buffer = []) :
    (cursor.refill session).1.finished = true := by
  revert nothing
  unfold refill
  split
  · unfold fetchPage
    split
    · exact fun _ => rfl
    · exact finished_receive
  · rename_i ready
    intro nothing
    have empty : cursor.buffer = [] := nothing
    have ended : cursor.finished = true := by simpa [empty] using ready
    exact ended

/-- **A refill changes nothing in what is ahead**, and the store serves the list still. -/
theorem refill_spec (cursor : Cursor)
    (serves : Store.Serves cursor.request served session.store) :
    Store.Serves (cursor.refill session).1.request served (cursor.refill session).2.store ∧
      (cursor.refill session).1.ahead served = cursor.ahead served := by
  unfold refill
  split
  · rename_i needed
    obtain ⟨unbuffered, going⟩ : cursor.buffer = [] ∧ cursor.finished = false := by
      simpa using needed
    unfold fetchPage
    split
    · rename_i enough
      refine ⟨serves, ?_⟩
      show ahead served { cursor with finished := true } = ahead served cursor
      simp [ahead, unbuffered, cut, enough]
    · rename_i wanting
      obtain ⟨page, answer, honest⟩ := serves _ .start cursor.offset cursor.remaining wanting
      show Store.Serves (cursor.receive (Store.search cursor.pageRequest session.store).1).request
          served (Store.search cursor.pageRequest session.store).2 ∧
        (cursor.receive (Store.search cursor.pageRequest session.store).1).ahead served = _
      rw [request_receive]
      refine ⟨serves.search cursor.offset cursor.remaining, ?_⟩
      have answered : (Store.search cursor.pageRequest session.store).1 = .ok page := answer
      rw [answered]
      exact ahead_receive unbuffered going wanting honest
  · exact ⟨serves, rfl⟩

/-- **One step gives the first entry that is ahead, if there is one, and the rest stays ahead.** -/
theorem next_spec (cursor : Cursor)
    (serves : Store.Serves cursor.request served session.store) :
    (cursor.next session).1.1 = (cursor.ahead served).head? ∧
      (cursor.next session).1.2.ahead served = (cursor.ahead served).tail ∧
      Store.Serves (cursor.next session).1.2.request served (cursor.next session).2.store := by
  obtain ⟨serving, same⟩ := refill_spec cursor serves
  rw [← same]
  show (cursor.refill session).1.pop.1 = _ ∧ (cursor.refill session).1.pop.2.ahead served = _ ∧
    Store.Serves (cursor.refill session).1.pop.2.request served (cursor.refill session).2.store
  have ended := finished_refill cursor session
  generalize (cursor.refill session).1 = filled at *
  unfold pop
  cases buffer : filled.buffer with
  | nil => simp [ahead, buffer, ended buffer, serving]
  | cons entry rest => simp [ahead, buffer, serving, cut, remaining]

/-- **A walk gives all that is ahead of it, in order.** -/
theorem drain_eq_ahead (cursor : Cursor)
    (serves : Store.Serves cursor.request served session.store) :
    (cursor.drain session).1 = cursor.ahead served := by
  -- Along the walk, each step takes the first entry off what is ahead.
  fun_induction cursor.drain session with
  | case1 cursor session after session' step =>
    obtain ⟨given, -, -⟩ := next_spec cursor serves
    rw [step] at given
    exact (List.head?_eq_none_iff.mp given.symm).symm
  | case2 cursor session entry after session' step rest session'' drained ih =>
    obtain ⟨given, left, serving⟩ := next_spec cursor serves
    rw [step] at given left serving
    have following : rest = (cursor.ahead served).tail := by
      rw [← left, ← ih serving, drained]
    rw [following]
    exact List.cons_head?_tail given.symm

/-- **A walk over a served list gives the part that was asked for.** -/
theorem drain_start {first : Request} (serves : Store.Serves first served session.store) :
    ((start first).drain session).1 = first.portion served := by
  rw [← ahead_start first served]
  exact drain_eq_ahead (start first) serves

end Cursor

/-! ### Stores in memory -/

/-- Whether an entry belongs to the answer to a search. A failure does, and so does an item that
satisfies the restriction, if there is one. -/
def Request.accepts (first : Request) : Entry Item → Bool
  | .error _ => true
  | .ok item => first.restriction.all fun restriction => restriction.satisfiedBy item

/-- What a search asks for of an item: all fields, or, where only identities are asked for, the
fields that the projection names. -/
def Request.part (first : Request) (item : Item) : Item :=
  if first.properties = .idOnly then
    { item with fields := item.fields.filter fun field =>
        ∃ path ∈ first.projection.getD [], path.field = field.1 }
  else item

namespace Memory

/-- **What a store in memory serves for a search**: of its entries in order, those that belong to the
answer, and of each item what is asked for. -/
def served (memory : Memory) (first : Request) : List (Entry Item) :=
  (memory.entries.filter first.accepts).map fun entry => entry.map first.part

theorem admits_ok (restriction : Option Restriction) (item : Item) :
    admits restriction (.ok item)
      = restriction.all fun restriction => restriction.satisfiedBy item := by
  cases restriction <;> rfl

theorem shape_eq_part (first : Request) : shape first = first.part := by
  funext item
  rw [shape, Request.part, Item.retain]
  refine if_congr Iff.rfl (congrArg (Item.mk item.id) (List.filter_congr fun field _ => ?_)) rfl
  rw [Bool.eq_iff_iff, List.any_eq_true, decide_eq_true_eq]
  simp only [beq_iff_eq]

/-- It finds the entries that belong to the answer, and cuts items down to what is asked for. -/
theorem served_eq (memory : Memory) (first : Request) :
    memory.served first
      = (memory.found first.restriction).map fun entry => entry.map (shape first) := by
  have belongs : first.accepts = admits first.restriction := by
    funext entry
    cases entry with
    | error error => rfl
    | ok item => exact (admits_ok first.restriction item).symm
  rw [served, belongs, shape_eq_part, found]

/-- A store in memory does not change when it is searched. -/
theorem eq_of_reaches {memory reached : Memory} {first : Request}
    (run : Store.Reaches first memory reached) : reached = memory := by
  induction run with
  | start => rfl
  | search _ _ _ ih => exact ih

/-- A page of a request for some items is honest, as far as positions are numbers of 64 bits. -/
theorem honest_page {memory : Memory} {request : Request}
    (addressable : memory.entries.length < UInt64.size) (wanting : 0 < request.limit) :
    (memory.page request).Honest (memory.served request) request.offset := by
  have entries : (memory.page request).entries
      = ((memory.served request).drop request.offset).take request.limit := by
    rw [served_eq, ← List.map_drop, ← List.map_take]
    rfl
  have next : (memory.page request).next
      = if request.offset + (memory.page request).entries.length < (memory.served request).length
          && !(memory.page request).entries.isEmpty
        then some (UInt64.ofNat (request.offset + (memory.page request).entries.length))
        else none := by
    rw [served_eq, List.length_map]
    rfl
  have length : (memory.served request).length < UInt64.size := by
    rw [served, List.length_map]
    exact Nat.lt_of_le_of_lt (List.length_filter_le _ _) addressable
  unfold Page.Honest
  split
  · rename_i inside
    refine ⟨request.limit, wanting, entries, ?_⟩
    have nonempty : (memory.page request).entries ≠ [] := by
      rw [entries]
      refine List.ne_nil_of_length_pos ?_
      rw [List.length_take, List.length_drop]
      omega
    rw [next]
    by_cases more : request.offset + (memory.page request).entries.length
        < (memory.served request).length
    · have position : (UInt64.ofNat (request.offset + (memory.page request).entries.length)).toNat
          = request.offset + (memory.page request).entries.length :=
        UInt64.toNat_ofNat_of_lt' (Nat.lt_trans more length)
      simp only [more, nonempty, List.isEmpty_eq_false_iff.mpr, decide_true, Bool.not_false,
        Bool.and_true, ne_eq, not_false_eq_true, if_true, Option.map_some, position]
    · simp [more]
  · rename_i outside
    have nothing : (memory.page request).entries = [] := by
      rw [entries, List.drop_eq_nil_of_le (Nat.le_of_not_lt outside), List.take_nil]
    rw [nothing] at next
    show Page.mk (memory.page request).entries (memory.page request).next = _
    rw [nothing, next]
    simp [Page.last]

/-- **A store in memory serves what it finds**, in pages of any size but zero, unless its pages are
made to fail. In memory a list has fewer than `UInt64.size` elements. -/
theorem serves {memory : Memory} {first : Request} (steady : memory.pageFailure = none)
    (addressable : memory.entries.length < UInt64.size) (size : 1 ≤ first.pageSize) :
    Store.Serves first (memory.served first) memory := by
  intro reached run offset maxItems wanting
  rw [eq_of_reaches run]
  have limited : 0 < ({ first with offset, maxItems } : Request).limit := by
    unfold Request.limit
    cases maxItems with
    | none => exact size
    | some most =>
      have positive : most ≠ 0 := fun zero => wanting (congrArg some zero)
      exact Nat.lt_min.mpr ⟨Nat.pos_of_ne_zero positive, size⟩
  refine ⟨memory.page { first with offset, maxItems }, ?_, honest_page addressable limited⟩
  show memory.answer { first with offset, maxItems } = _
  simp only [answer, steady]

end Memory

/-! ### Paging -/

/-- **Paging loses nothing and repeats nothing.** A walk over any store that serves a list gives the
part of the list that was asked for, whatever the lengths of the pages. A store in memory serves
what it finds, so that what a walk gives does not depend on the size of its pages. -/
theorem paging_exact :
    (∀ (σ : Type) [Store σ] (first : Request) (served : List (Entry Item)) (session : Session σ),
      Store.Serves first served session.store →
        ((Cursor.start first).drain session).1 = first.portion served) ∧
    (∀ (memory : Memory) (first : Request), memory.pageFailure = none →
      memory.entries.length < UInt64.size → 1 ≤ first.pageSize →
        Store.Serves first (memory.served first) memory) ∧
    ∀ (session : Session Memory) (first : Request) (size : Nat),
      session.store.pageFailure = none → session.store.entries.length < UInt64.size → 1 ≤ size →
        ((Cursor.start { first with pageSize := size }).drain session).1
          = first.portion (session.store.served first) := by
  refine ⟨fun _ _ first served session => Cursor.drain_start, fun memory first => Memory.serves,
    fun session first size steady addressable positive => ?_⟩
  have serves : Store.Serves { first with pageSize := size } (session.store.served first)
      session.store := Memory.serves steady addressable positive
  exact Cursor.drain_start serves

/-- A store that answers with all that follows a position, however little was asked for. -/
structure Unpaged where
  entries : List (Entry Item)

instance : Store Unpaged where
  search request store := (.ok (.last (store.entries.drop request.offset)), store)
  remove _ store := ([], store)

/-- Pages that are too long are honest too. -/
theorem Unpaged.serves (first : Request) (store : Unpaged) :
    Store.Serves first store.entries store := by
  intro reached run offset maxItems _
  have same : reached = store := by
    induction run with
    | start => rfl
    | search _ _ _ ih => exact ih
  subst same
  refine ⟨.last (reached.entries.drop offset), rfl, ?_⟩
  unfold Page.Honest
  split
  · rename_i inside
    refine ⟨reached.entries.length, by omega, ?_, ?_⟩
    · rw [List.take_of_length_le]
      · rfl
      · rw [List.length_drop]
        omega
    · have complete : ¬ offset + (reached.entries.drop offset).length < reached.entries.length := by
        rw [List.length_drop]
        omega
      exact (if_neg complete).symm
  · rename_i outside
    rw [List.drop_eq_nil_of_le (Nat.le_of_not_lt outside)]

/-- Two entries from the middle of five. Of the items the large ones belong to the answer, and only
their subjects are asked for; a store that looks at none of this serves all entries as they are. -/
theorem paging_exact_middle :
    let large : Restriction :=
      .compare ⟨"item:Size", none, .ofField "size"⟩ .greater ⟨.int 5, "5", rfl⟩
    let first : Request :=
      { folders := [], restriction := some large, properties := .idOnly
        projection := some [.ofField "subject"], orderHint := none, depth := .shallow
        pageSize := 7, offset := 1, maxItems := some 2 }
    let item (id : String) (size : Int64) : Entry Item :=
      .ok ⟨⟨id, none⟩, [("size", .int size), ("subject", .text id)]⟩
    let entries : List (Entry Item) :=
      [item "a" 9, .error (.itemNotFound "b"), item "c" 1, item "d" 7, item "e" 8]
    ((Cursor.start first).drain ⟨Unpaged.mk entries, []⟩).1
        = [.error (.itemNotFound "b"), item "c" 1] ∧
      ((Cursor.start { first with pageSize := 1 }).drain ⟨Memory.mk entries none, []⟩).1
        = [.error (.itemNotFound "b"), .ok ⟨⟨"d", none⟩, [("subject", .text "d")]⟩] := by
  intro large first item entries
  obtain ⟨drains, -, sized⟩ := paging_exact
  exact ⟨drains Unpaged first entries ⟨⟨entries⟩, []⟩ (Unpaged.serves first ⟨entries⟩),
    sized ⟨⟨entries, none⟩, []⟩ first 1 rfl (by decide) (by decide)⟩

end Sift
