/-
**Stores, and the calls made to them.**

A store answers searches, one page at a time, and removes items. It may be anything: its answers may
change with every call. A `Session` is a store in use, together with the calls made so far.

* `Request`, `Page` — what a search asks for, and what comes back.
* `Store` — the interface.
* `Session.search`, `Session.remove` — a call, recorded.
-/

import Sift.Item.Basic
import Sift.Error.Remote
import Sift.Restriction.Basic

namespace Sift

/-- One element of a result: what was asked for, or a failure in its place. -/
abbrev Entry (α : Type) := Except RemoteError α

/-- What one page of a search asks for. -/
structure Request where
  folders : List FolderId
  /-- Without a restriction every item of the folders is meant. -/
  restriction : Option Restriction
  properties : PropertySet
  /-- Fields to return beyond the set of properties. -/
  projection : Option (List FieldPath)
  /-- The paths that the result will be sorted by. A store need not care. -/
  orderHint : Option (List FieldPath)
  depth : Depth
  /-- The most items in a page. -/
  pageSize : Nat
  /-- The position of the first item. -/
  offset : Nat
  /-- The most items that are still wanted, over all pages. -/
  maxItems : Option Nat

namespace Request

/-- How many items the page may hold. -/
def limit (request : Request) : Nat :=
  match request.maxItems with
  | none => request.pageSize
  | some most => min most request.pageSize

end Request

/-- One page of a result, and the position of the next one unless it is the last. Positions are
numbers of 64 bits. -/
structure Page where
  entries : List (Entry Item)
  next : Option UInt64

namespace Page

/-- A page with nothing behind it. -/
def last (entries : List (Entry Item)) : Page := ⟨entries, none⟩

end Page

/-- Something that answers searches and removes items. -/
class Store (σ : Type) where
  search : Request → σ → Entry Page × σ
  /-- Removes the items of these identities. There should be one outcome for each. -/
  remove : List ItemId → σ → List (Entry Unit) × σ

inductive Call where
  | search (request : Request)
  | remove (ids : List ItemId)

namespace Call

def request? : Call → Option Request
  | .search request => some request
  | .remove _ => none

def removal? : Call → Option (List ItemId)
  | .search _ => none
  | .remove ids => some ids

end Call

/-- A store in use: what it has become, and the calls made to it so far. -/
structure Session (σ : Type) where
  store : σ
  calls : List Call := []

/-- A computation that calls a store. -/
abbrev Query (σ : Type) := StateM (Session σ)

namespace Session

variable {σ : Type}

/-- Asks the store for a page. -/
def search [Store σ] (request : Request) : Query σ (Entry Page) := fun session =>
  let (answer, store) := Store.search request session.store
  (answer, ⟨store, session.calls ++ [.search request]⟩)

/-- Has the store remove items. -/
def remove [Store σ] (ids : List ItemId) : Query σ (List (Entry Unit)) := fun session =>
  let (outcomes, store) := Store.remove ids session.store
  (outcomes, ⟨store, session.calls ++ [.remove ids]⟩)

def requests (session : Session σ) : List Request :=
  session.calls.filterMap Call.request?

def removals (session : Session σ) : List (List ItemId) :=
  session.calls.filterMap Call.removal?

end Session

end Sift
