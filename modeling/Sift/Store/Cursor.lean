/-
**Walking through the pages of a search.**

A `Cursor` asks for a page only when it has nothing left to give. The walk ends on a last page, on
an empty page, when enough entries have come, when the next position is not behind the current one,
or on the failure of a page, which is given as a last entry.

* `Cursor.next` — the next entry.
* `Cursor.drain` — all entries that are left.
* `Cursor.measure_next` — each entry brings the walk closer to its end, whatever the store answers.
-/

import Sift.Store.Basic

namespace Sift

/-- A walk through the pages of a search. -/
structure Cursor where
  /-- The request of the first page. -/
  request : Request
  /-- The position of the next page. -/
  offset : Nat
  /-- How many entries have come. -/
  received : Nat
  /-- The entries that have come and are not given yet. -/
  buffer : List (Entry Item)
  finished : Bool

namespace Cursor

def start (request : Request) : Cursor :=
  ⟨request, request.offset, 0, [], false⟩

/-- How many entries may still come, if there is a limit. -/
def remaining (cursor : Cursor) : Option Nat :=
  cursor.request.maxItems.map (· - cursor.received)

def pageRequest (cursor : Cursor) : Request :=
  { cursor.request with offset := cursor.offset, maxItems := cursor.remaining }

/-- Cuts entries down to how many may still come. -/
def cut (cursor : Cursor) (entries : List (Entry Item)) : List (Entry Item) :=
  match cursor.remaining with
  | none => entries
  | some most => entries.take most

/-- The walk after an answer. -/
def receive (cursor : Cursor) : Entry Page → Cursor
  | .error error => { cursor with buffer := [.error error], finished := true }
  | .ok page =>
    let entries := cursor.cut page.entries
    let moved := { cursor with
      received := cursor.received + entries.length, buffer := entries }
    match page.next with
    | none => { moved with finished := true }
    | some next =>
      if !entries.isEmpty && cursor.offset < next.toNat then { moved with offset := next.toNat }
      else { moved with finished := true }

variable {σ : Type}

/-- Asks for the next page, unless enough entries have come. -/
def fetchPage [Store σ] (cursor : Cursor) : Query σ Cursor :=
  if cursor.remaining = some 0 then return { cursor with finished := true }
  else return cursor.receive (← Session.search cursor.pageRequest)

/-- The walk with something to give, if there is anything left. -/
def refill [Store σ] (cursor : Cursor) : Query σ Cursor :=
  if cursor.buffer.isEmpty && !cursor.finished then cursor.fetchPage else return cursor

/-- The first entry of the buffer, and the walk without it. -/
def pop (cursor : Cursor) : Option (Entry Item) × Cursor :=
  match cursor.buffer with
  | [] => (none, cursor)
  | entry :: rest => (some entry, { cursor with buffer := rest })

/-- The next entry. One page is enough to find it: a page that brings nothing ends the walk. -/
def next [Store σ] (cursor : Cursor) : Query σ (Option (Entry Item) × Cursor) := do
  return (← cursor.refill).pop

/-! ### The end of the walk -/

/-- How many positions are left for further pages. -/
def pagesLeft (cursor : Cursor) : Nat :=
  if cursor.finished then 0 else UInt64.size - cursor.offset + 1

/-- An answer uses up a position or ends the walk. -/
theorem pagesLeft_receive (cursor : Cursor) (going : cursor.finished = false)
    (answer : Entry Page) : (cursor.receive answer).pagesLeft < cursor.pagesLeft := by
  have positive : cursor.pagesLeft = UInt64.size - cursor.offset + 1 := by simp [pagesLeft, going]
  rw [positive]
  cases answer with
  | error error => simp [receive, pagesLeft]
  | ok page =>
    simp only [receive]
    split
    · simp [pagesLeft]
    · rename_i next _
      split
      · rename_i further
        have ahead : cursor.offset < next.toNat := by simpa using And.right (by simpa using further)
        have bound := next.toNat_lt_size
        simp only [pagesLeft, going]
        simp only [Bool.false_eq_true, ↓reduceIte]
        omega
      · simp [pagesLeft]

/-- Where the next entry comes from a page, that page used up a position or ended the walk. -/
theorem pagesLeft_fetchPage [Store σ] (cursor : Cursor) (going : cursor.finished = false)
    (session : Session σ) : (cursor.fetchPage session).1.pagesLeft < cursor.pagesLeft := by
  unfold fetchPage
  split
  · show pagesLeft { cursor with finished := true } < cursor.pagesLeft
    simp [pagesLeft, going]
  · exact pagesLeft_receive cursor going _

/-- Each entry brings the walk closer to its end: there are fewer pages left, or as many and fewer
entries in the buffer. -/
theorem measure_next [Store σ] (cursor : Cursor) (session : Session σ) {entry : Entry Item}
    {cursor' : Cursor} {session' : Session σ}
    (step : cursor.next session = ((some entry, cursor'), session')) :
    cursor'.pagesLeft < cursor.pagesLeft ∨
      cursor'.pagesLeft = cursor.pagesLeft ∧ cursor'.buffer.length < cursor.buffer.length := by
  have popped : (cursor.refill session).1.pop = (some entry, cursor') :=
    congrArg Prod.fst step
  by_cases fetching : cursor.buffer.isEmpty && !cursor.finished
  · left
    have going : cursor.finished = false := by simp_all
    have fewer := pagesLeft_fetchPage cursor going session
    have same : cursor.refill session = cursor.fetchPage session := by simp [refill, fetching]
    rw [same] at popped
    unfold pop at popped
    split at popped
    · simp at popped
    · obtain ⟨-, rfl⟩ := by simpa using popped
      exact fewer
  · right
    have same : cursor.refill session = (cursor, session) := by
      rw [refill, if_neg fetching]
      rfl
    rw [same] at popped
    unfold pop at popped
    split at popped
    · simp at popped
    · rename_i first rest found
      replace found : cursor.buffer = first :: rest := found
      obtain ⟨-, rfl⟩ := by simpa using popped
      exact ⟨rfl, by simp [found]⟩

/-- All entries that are left. -/
def drain [Store σ] (cursor : Cursor) (session : Session σ) : List (Entry Item) × Session σ :=
  match _step : cursor.next session with
  | ((none, _), session') => ([], session')
  | ((some entry, cursor'), session') =>
    let (rest, session'') := drain cursor' session'
    (entry :: rest, session'')
termination_by (cursor.pagesLeft, cursor.buffer.length)
decreasing_by
  rcases measure_next cursor session _step with fewer | ⟨same, shorter⟩
  · exact Prod.Lex.left _ _ fewer
  · rw [same]
    exact Prod.Lex.right _ shorter

end Cursor

end Sift
