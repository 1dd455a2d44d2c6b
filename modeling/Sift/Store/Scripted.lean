/-
**A store that answers from a script.**

`Scripted` gives one prepared answer after another, whatever is asked. When the answers have run
out, searches find nothing more and removals have no outcomes.
-/

import Sift.Store.Basic

namespace Sift

/-- The answers that are still to be given. -/
structure Scripted where
  pages : List (Entry Page)
  /-- The outcomes of the next removal. -/
  outcomes : List (Entry Unit) := []

instance : Store Scripted where
  search _ script :=
    match script.pages with
    | [] => (.ok (.last []), script)
    | page :: rest => (page, { script with pages := rest })
  remove _ script := (script.outcomes, { script with outcomes := [] })

end Sift
