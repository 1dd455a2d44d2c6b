/-
**A store that holds its items in memory.**

`Memory` answers a search by testing its items one after another. Failures can be placed among the
items, where every search meets them, and pages from some position on can be made to fail.

* `Memory.found` — the entries that a restriction admits; failures always pass.
* `Memory.page` — the answer to a request.
* `Memory.removeAll` — the outcomes of a removal, and what is left.
-/

import Sift.Item.Document
import Sift.Restriction.Matching
import Sift.Store.Basic

namespace Sift

/-- Items and failures in order, and possibly a position from which on pages fail. -/
structure Memory where
  entries : List (Entry Item)
  pageFailure : Option (Nat × RemoteError) := none

namespace Memory

def ofItems (items : List Item) : Memory :=
  { entries := items.map .ok }

/-- The store of the items in a JSON text. -/
def ofText? (text : String) : Option Memory :=
  (Item.listOfText? text).map ofItems

/-- Places a failure at a position, or at the end where there is no such position. -/
def withItemError (memory : Memory) (position : Nat) (error : RemoteError) : Memory :=
  { memory with
    entries := memory.entries.take position ++ .error error :: memory.entries.drop position }

/-- Makes every page fail that starts at a position or behind it. -/
def withPageFailure (memory : Memory) (offset : Nat) (error : RemoteError) : Memory :=
  { memory with pageFailure := some (offset, error) }

/-- The identities of the items, in order. -/
def ids (memory : Memory) : List ItemId :=
  memory.entries.filterMap fun entry =>
    match entry with
    | .ok item => some item.id
    | .error _ => none

/-- Whether an entry belongs to a result: a failure always does. -/
def admits (restriction : Option Restriction) : Entry Item → Bool
  | .error _ => true
  | .ok item =>
    match restriction with
    | none => true
    | some restriction => restriction.satisfiedBy item

/-- The entries that a restriction admits. -/
def found (memory : Memory) (restriction : Option Restriction) : List (Entry Item) :=
  memory.entries.filter (admits restriction)

/-- An item with no more than what a request asks for. -/
def shape (request : Request) (item : Item) : Item :=
  if request.properties = .idOnly then
    item.retain fun name => (request.projection.getD []).any fun path => path.field == name
  else item

/-- The page of a request, as far as pages do not fail. -/
def page (memory : Memory) (request : Request) : Page :=
  let found := memory.found request.restriction
  let entries := ((found.drop request.offset).take request.limit).map
    fun entry => entry.map (shape request)
  let next := request.offset + entries.length
  ⟨entries, if next < found.length && !entries.isEmpty then some (UInt64.ofNat next) else none⟩

def answer (memory : Memory) (request : Request) : Entry Page :=
  match memory.pageFailure with
  | some (offset, error) =>
    if offset ≤ request.offset then .error error else .ok (memory.page request)
  | none => .ok (memory.page request)

/-- What is left without the first item of an id, if there is one. -/
def removeFirst? (id : String) : List (Entry Item) → Option (List (Entry Item))
  | [] => none
  | .ok item :: rest =>
    if item.id.id = id then some rest else (removeFirst? id rest).map (.ok item :: ·)
  | .error error :: rest => (removeFirst? id rest).map (.error error :: ·)

/-- The outcome for each identity, and what is left. -/
def removeAll : List ItemId → List (Entry Item) → List (Entry Unit) × List (Entry Item)
  | [], entries => ([], entries)
  | id :: rest, entries =>
    match removeFirst? id.id entries with
    | some left =>
      let (outcomes, left) := removeAll rest left
      (.ok () :: outcomes, left)
    | none =>
      let (outcomes, left) := removeAll rest entries
      (.error (.itemNotFound id.id) :: outcomes, left)

instance : Store Memory where
  search request memory := (memory.answer request, memory)
  remove ids memory :=
    let (outcomes, entries) := removeAll ids memory.entries
    (outcomes, { memory with entries })

end Memory

end Sift
