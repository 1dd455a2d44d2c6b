/-
**Query sets: searches that are described before they are run.**

A `QuerySet` holds a predicate, a projection, an ordering and the form of its rows. Each call here
makes another query set from one, with nothing fetched yet; the arguments are checked at once.

* `filter`, `exclude` — a narrower predicate; `empty` — one that matches nothing.
* `only`, `values`, `valuesList` — which fields to fetch, and the form of the rows.
* `orderBy`, `reverse` — the ordering.
-/

import Sift.Predicate.Expression
import Sift.QuerySet.Row
import Sift.Restriction.Compile
import Sift.Settings
import Sift.Store.Basic

namespace Sift

/-- A search, and the rows that were fetched for it, if they were. -/
structure QuerySet where
  catalog : Catalog
  folders : List FolderId
  /-- Without a predicate nothing matches. -/
  predicate : Option Predicate := some .empty
  projection : Option (List FieldPath) := none
  ordering : List SortKey := []
  reversed : Bool := false
  shape : RowShape := .entities
  pageSize : Nat
  idPageSize : Nat
  depth : Depth
  cache : Option (List (Entry Row)) := none

namespace QuerySet

/-- Every item of the folders, with the default settings. -/
def ofFolders (catalog : Catalog) (folders : List FolderId) : QuerySet :=
  let settings : Settings := {}
  { catalog, folders
    pageSize := settings.pageSize
    idPageSize := settings.countPageSize
    depth := settings.depth }

/-- The same search with nothing fetched. -/
def all (set : QuerySet) : QuerySet :=
  { set with cache := none }

@[simp] theorem all_cache (set : QuerySet) : set.all.cache = none := rfl

@[simp] theorem all_predicate (set : QuerySet) : set.all.predicate = set.predicate := rfl

@[simp] theorem all_ordering (set : QuerySet) : set.all.ordering = set.ordering := rfl

def withSettings (set : QuerySet) (settings : Settings) : QuerySet :=
  { set.all with
    pageSize := settings.pageSize
    idPageSize := settings.countPageSize
    depth := settings.depth }

/-- A search that matches nothing, and never calls the store. -/
def empty (set : QuerySet) : QuerySet :=
  { set.all with predicate := none }

/-- The search narrowed to the items that match a predicate too. -/
def filter (set : QuerySet) (predicate : Predicate) : Except QueryError QuerySet := do
  let resolved ← predicate.resolve set.catalog
  return { set.all with predicate := set.predicate.map (·.both resolved) }

/-- The search narrowed to the items that do not match a predicate. -/
def exclude (set : QuerySet) (predicate : Predicate) : Except QueryError QuerySet := do
  let resolved ← predicate.resolve set.catalog
  return { set.all with predicate := set.predicate.map (·.both resolved.negate) }

/-- The paths of a projection, at least one, for a call of the given name. -/
def projected (set : QuerySet) (call : String) (fields : List String) :
    Except QueryError (List FieldPath) :=
  if fields.isEmpty then .error (.invalidArguments (.noFields call))
  else fields.mapM (FieldPath.ofText set.catalog)

/-- Whole items, with the given fields only. -/
def only (set : QuerySet) (fields : List String) : Except QueryError QuerySet := do
  let paths ← set.projected "only" fields
  return { set.all with projection := some paths, shape := .entities }

/-- The values under the given paths, with the paths. -/
def values (set : QuerySet) (fields : List String) : Except QueryError QuerySet := do
  let paths ← set.projected "values" fields
  return { set.all with projection := some paths, shape := .values }

/-- The values under the given paths; bare ones under a single path where `flat` is set. -/
def valuesList (set : QuerySet) (fields : List String) (flat : Bool) :
    Except QueryError QuerySet := do
  if flat && fields.length != 1 then
    .error (.invalidArguments (.flatNeedsOne fields.length))
  else
    let paths ← set.projected "values_list" fields
    return { set.all with projection := some paths, shape := if flat then .flat else .tuple }

/-- The search sorted by the given keys; none of them stands for the store's own order. -/
def orderBy (set : QuerySet) (fields : List String) : Except QueryError QuerySet := do
  let ordering ← fields.mapM (SortKey.ofText set.catalog)
  return { set.all with ordering, reversed := false }

/-- The search with the direction of every key turned around. -/
def reverse (set : QuerySet) : Except QueryError QuerySet :=
  if set.ordering.isEmpty then .error (.invalidArguments .reverseNeedsOrdering)
  else .ok { set.all with reversed := !set.reversed }

def withPageSize (set : QuerySet) (pageSize : Nat) : Except QueryError QuerySet :=
  if pageSize = 0 then .error (.invalidArguments .zeroPageSize)
  else .ok { set.all with pageSize }

def withDepth (set : QuerySet) (depth : Depth) : QuerySet :=
  { set.all with depth }

/-! ### Inspection -/

/-- The restriction that the store is asked for. -/
def restriction (set : QuerySet) : Except QueryError (Option Restriction) :=
  match set.predicate with
  | some predicate => predicate.compile set.catalog
  | none => .ok none

/-- The sort keys in effect. -/
def sortKeys (set : QuerySet) : List SortKey :=
  set.ordering.map fun key => { key with descending := key.descending != set.reversed }

def isCached (set : QuerySet) : Bool :=
  set.cache.isSome

def describe (set : QuerySet) : String :=
  "QuerySet(q=" ++ (set.predicate.map Predicate.describe).getD "<none>" ++
    ", folders=[" ++ commaList (set.folders.map FolderId.id) ++ "]" ++
    match set.cache with
    | none => ")"
    | some rows => ", len=" ++ Text.natText rows.length ++ ")"

end QuerySet

end Sift
