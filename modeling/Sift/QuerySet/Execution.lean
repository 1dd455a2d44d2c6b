/-
**Running a query set.**

Each call here answers from the rows that were fetched before, if they were, and otherwise calls the
store. A call gives its answer together with the query set as it is afterwards, also where the
answer is an error.

* `fetch`, `count`, `nonempty`, `get` — the whole result, which is kept.
* `index`, `slice` — parts of it: where possible only those are fetched, and then nothing is kept.
* `delete` — removes what matches, with one outcome for each entry.
-/

import Sift.QuerySet.Basic
import Sift.QuerySet.Stream
import Sift.Slice

namespace Sift.QuerySet

variable {σ : Type}

/-- An answer or an error, and the query set afterwards. -/
abbrev Answer (α : Type) := Except QueryError α × QuerySet

/-! ### The request -/

/-- Whether a path leads to what identifies an item, which comes without being asked for. -/
def isAttribute (set : QuerySet) (path : FieldPath) : Bool :=
  (set.catalog.get? path.field).any Field.isAttribute

/-- The paths to sort by that no projected field covers. -/
def extraSortPaths (set : QuerySet) (fields : List FieldPath) : List FieldPath :=
  (set.sortKeys.map SortKey.path).filter fun path =>
    !set.isAttribute path && !fields.any fun projected => projected.field == path.field

/-- The elements with each one once, where it stands first. -/
def distinct {α : Type} [BEq α] (elements : List α) : List α :=
  elements.foldl (fun found x => if found.contains x then found else found ++ [x]) []

/-- What to ask of the store for each item, and how to make rows of what comes. -/
def plan (set : QuerySet) : PropertySet × Option (List FieldPath) × Shaper :=
  match set.projection with
  | none => (.all, none, .whole set.shape)
  | some fields =>
    let extra := set.extraSortPaths fields
    let asked := fields.filter fun path => !set.isAttribute path
    let projection := asked ++ distinct extra
    (.idOnly, if projection.isEmpty then none else some projection,
      ⟨set.shape, fields, distinct (extra.map FieldPath.field)⟩)

/-- The request for part of the result. -/
def request (set : QuerySet) (restriction : Option Restriction) (offset : Nat)
    (maxItems : Option Nat) (pageSize : Nat) : Request :=
  let (properties, projection, _) := set.plan
  { folders := set.folders
    restriction, properties, projection
    orderHint := if set.sortKeys.isEmpty then none else some (set.sortKeys.map SortKey.path)
    depth := set.depth
    pageSize, offset, maxItems }

/-- A pass over part of the result. -/
def stream (set : QuerySet) (offset : Nat) (maxItems : Option Nat) (pageSize : Nat) :
    Except QueryError Stream :=
  match set.predicate with
  | none => .ok .empty
  | some predicate => do
    let restriction ← predicate.compile set.catalog
    return .ofRequest (set.request restriction offset maxItems pageSize) set.sortKeys set.plan.2.2

/-- A fresh pass over the whole result. -/
def iterator (set : QuerySet) : Except QueryError Stream :=
  set.stream 0 none set.pageSize

/-! ### The whole result -/

/-- All rows, fetched and kept unless they are there already. -/
def fetch [Store σ] (set : QuerySet) : Query σ (Answer (List (Entry Row))) := do
  match set.cache with
  | some rows => return (.ok rows, set)
  | none =>
    match set.iterator with
    | .error error => return (.error error, set)
    | .ok stream =>
      let rows ← stream.collect
      return (.ok rows, { set with cache := some rows })

/-- What the rows say, all of them fetched first. -/
def onRows [Store σ] {α : Type} (set : QuerySet)
    (answer : List (Entry Row) → Except QueryError α) : Query σ (Answer α) := do
  let (rows, set) ← set.fetch
  return (rows.bind answer, set)

def count [Store σ] (set : QuerySet) : Query σ (Answer Nat) :=
  set.onRows fun rows => .ok rows.length

def nonempty [Store σ] (set : QuerySet) : Query σ (Answer Bool) :=
  set.onRows fun rows => .ok (!rows.isEmpty)

/-- The row of an entry, or the error of a failure. -/
def rowOf : Entry Row → Except QueryError Row
  | .ok row => .ok row
  | .error error => .error (.remote error)

/-- The only row of a result. -/
def exactlyOne : List (Entry Row) → Except QueryError Row
  | [] => .error .doesNotExist
  | [entry] => rowOf entry
  | rows => .error (.multipleObjects rows.length)

/-- The only row that matches a predicate too. With an empty group the query set is asked as it
is. -/
def get [Store σ] (set : QuerySet) (predicate : Predicate) : Query σ (Answer Row) := do
  if predicate.isEmpty then set.onRows exactlyOne
  else
    match set.filter predicate with
    | .error error => return (.error error, set)
    | .ok filtered =>
      let (row, _) ← filtered.onRows exactlyOne
      return (row, set)

/-! ### Parts of the result -/

def rowAt (index : Int64) (rows : List (Entry Row)) : Except QueryError Row :=
  match (Slice.resolveIndex? index rows.length).bind (rows[·]?) with
  | some entry => rowOf entry
  | none => .error (.indexOutOfRange index.toInt)

/-- The row at an index, counted from the end where it is negative. -/
def index [Store σ] (set : QuerySet) (index : Int64) : Query σ (Answer Row) := do
  match set.cache with
  | some rows => return (rowAt index rows, set)
  | none =>
    if set.predicate.isNone then return (.error (.indexOutOfRange index.toInt), set)
    else if 0 ≤ index.toInt && set.ordering.isEmpty then
      match set.stream index.toInt.toNat (some 1) 1 with
      | .error error => return (.error error, set)
      | .ok stream =>
        match (← stream.next).1 with
        | some entry => return (rowOf entry, set)
        | none => return (.error (.indexOutOfRange index.toInt), set)
    else set.onRows (rowAt index)

def select (slice : Slice) (rows : List (Entry Row)) : Except QueryError (List (Entry Row)) :=
  match slice.select? rows with
  | some rows => .ok rows
  | none => .error .positionOverflow

def slice [Store σ] (set : QuerySet) (slice : Slice) :
    Query σ (Answer (List (Entry Row))) := do
  if slice.step = 0 then return (.error (.invalidArguments .zeroStep), set)
  else
    match set.cache with
    | some rows => return (select slice rows, set)
    | none =>
      if set.predicate.isNone then return (.ok [], set)
      else if slice.isForward && set.ordering.isEmpty then
        let start := (slice.start.getD 0).toInt.toNat
        let most := slice.stop.map fun stop => stop.toInt.toNat - start
        if most = some 0 then return (.ok [], set)
        else
          let pageSize := (most.map (min · set.pageSize)).getD set.pageSize
          match set.stream start most pageSize with
          | .error error => return (.error error, set)
          | .ok stream =>
            let rows ← stream.collect
            return (.ok (Slice.everyNth slice.step.toInt.toNat 0 rows), set)
      else set.onRows (select slice)

/-! ### Removal -/

/-- The identities of rows that are whole items. -/
def rowIds (rows : List (Entry Row)) : List (Entry ItemId) :=
  rows.filterMap fun entry =>
    match entry with
    | .ok row => row.item?.map fun item => .ok item.id
    | .error error => some (.error error)

def idRequest (set : QuerySet) (restriction : Option Restriction) : Request :=
  { folders := set.folders
    restriction
    properties := .idOnly
    projection := none
    orderHint := none
    depth := set.depth
    pageSize := set.idPageSize
    offset := 0
    maxItems := none }

/-- The identities of all that matches, fetched. -/
def fetchIds [Store σ] (set : QuerySet) : Query σ (Except QueryError (List (Entry ItemId))) := do
  match set.predicate with
  | none => return .ok []
  | some predicate =>
    match predicate.compile set.catalog with
    | .error error => return .error error
    | .ok restriction =>
      let entries ← (Cursor.start (set.idRequest restriction)).drain
      return .ok (entries.map fun entry => entry.map Item.id)

/-- The identities of all that is to be removed: those of the rows that are there, if they are whole
items, and fetched ones otherwise. -/
def removalTargets [Store σ] (set : QuerySet) :
    Query σ (Except QueryError (List (Entry ItemId))) :=
  match set.cache, set.shape with
  | some rows, .entities => return .ok (rowIds rows)
  | _, _ => set.fetchIds

/-- The targets that are identities. -/
def loadedIds (targets : List (Entry ItemId)) : List ItemId :=
  targets.filterMap fun target =>
    match target with
    | .ok id => some id
    | .error _ => none

/-- One outcome for each target: its own failure, or the next outcome of the store, or the error of
an item that is not there where the store has no more outcomes. -/
def assignOutcomes : List (Entry ItemId) → List (Entry Unit) → List (Entry Unit)
  | [], _ => []
  | .error error :: targets, outcomes => .error error :: assignOutcomes targets outcomes
  | .ok id :: targets, [] => .error (.itemNotFound id.id) :: assignOutcomes targets []
  | .ok _ :: targets, outcome :: outcomes => outcome :: assignOutcomes targets outcomes

/-- Removes all that matches, with one outcome for each entry. Afterwards no rows are kept. -/
def delete [Store σ] (set : QuerySet) : Query σ (Answer (List (Entry Unit))) := do
  match ← set.removalTargets with
  | .error error => return (.error error, set)
  | .ok targets =>
    let ids := loadedIds targets
    let outcomes ← if ids.isEmpty then pure [] else Session.remove ids
    return (.ok (assignOutcomes targets outcomes), set.all)

end Sift.QuerySet
