/-
**Sorting entries by values.**

Entries are compared key by key. A missing or null value is less than any other, and a failure has
no values at all; a descending key turns its comparison around. Entries that agree on all keys keep
their order.

* `sortEntries` — the entries in order.
-/

import Sift.Resolution
import Sift.Sorting
import Sift.Store.Basic
import Sift.Value.Order

namespace Sift

/-- The value of an entry under a path, if it has one that is not null. -/
def Entry.valueAt (entry : Entry Item) (path : FieldPath) : Option Value :=
  match entry with
  | .ok item => (item.valueAt path).filter fun value => !value.isNull
  | .error _ => none

namespace SortKey

/-- The order of two values that may be missing. -/
def compareValues : Option Value → Option Value → Ordering
  | none, none => .eq
  | none, some _ => .lt
  | some _, none => .gt
  | some a, some b => a.sortCompare b

/-- The order of two entries by one key. -/
def compare (key : SortKey) (a b : Entry Item) : Ordering :=
  let order := compareValues (Entry.valueAt a key.path) (Entry.valueAt b key.path)
  if key.descending then order.swap else order

end SortKey

/-- The order of two entries by the first key on which they differ. -/
def compareEntries : List SortKey → Entry Item → Entry Item → Ordering
  | [], _, _ => .eq
  | key :: rest, a, b => (key.compare a b).then (compareEntries rest a b)

/-- The entries in the order of the keys. -/
def sortEntries (keys : List SortKey) (entries : List (Entry Item)) : List (Entry Item) :=
  stableSort (fun a b => compareEntries keys a b == .lt) entries

end Sift
