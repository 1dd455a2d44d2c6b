/-
**A pass over a result, row by row.**

Rows come page by page as they are asked for. Where the result is ordered, all pages are fetched
when the first row is asked for.

* `Stream.next` — the next row.
* `Stream.collect` — all rows that are left.
-/

import Sift.QuerySet.Row
import Sift.QuerySet.Sorting
import Sift.Store.Cursor

namespace Sift

/-- Where the entries of a pass come from. -/
inductive Stream.Source where
  | nothing
  | pages (cursor : Cursor)
  /-- A walk that is still to be made and then sorted. -/
  | unsorted (cursor : Cursor) (keys : List SortKey)
  | sorted (entries : List (Entry Item))

/-- A pass over a result. -/
structure Stream where
  source : Stream.Source
  shaper : Shaper

namespace Stream

def empty : Stream := ⟨.nothing, .whole .entities⟩

/-- A pass over the pages of a request, sorted where there are keys. -/
def ofRequest (request : Request) (keys : List SortKey) (shaper : Shaper) : Stream :=
  let cursor := Cursor.start request
  ⟨if keys.isEmpty then .pages cursor else .unsorted cursor keys, shaper⟩

variable {σ : Type}

def row (stream : Stream) (entry : Entry Item) : Entry Row :=
  entry.map stream.shaper.row

/-- The first of the sorted entries as a row, and the pass behind it. -/
def takeSorted (stream : Stream) : List (Entry Item) → Option (Entry Row) × Stream
  | [] => (none, { stream with source := .sorted [] })
  | entry :: rest => (some (stream.row entry), { stream with source := .sorted rest })

def next [Store σ] (stream : Stream) : Query σ (Option (Entry Row) × Stream) := do
  match stream.source with
  | .nothing => return (none, stream)
  | .pages cursor =>
    let (entry, cursor) ← cursor.next
    return (entry.map stream.row, { stream with source := .pages cursor })
  | .unsorted cursor keys =>
    let entries ← cursor.drain
    return stream.takeSorted (sortEntries keys entries)
  | .sorted entries => return stream.takeSorted entries

/-- All rows that are left. -/
def collect [Store σ] (stream : Stream) : Query σ (List (Entry Row)) := do
  match stream.source with
  | .nothing => return []
  | .pages cursor => return (← cursor.drain).map stream.row
  | .unsorted cursor keys => return (sortEntries keys (← cursor.drain)).map stream.row
  | .sorted entries => return entries.map stream.row

end Stream

end Sift
