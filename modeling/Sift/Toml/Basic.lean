/-
**TOML documents.**

A document is a table. A table remembers how it came about, because that decides who may add to it
later: one written in braces is complete, one opened by a header may not be opened again, one that
a dotted key made grows by dotted keys only, and one that a longer header implied may still be
opened.

* `Toml.Entries.insert?` — a value put under a dotted key.
* `Toml.Entries.open?`, `Toml.Entries.openNext?` — a table opened by a header, and a further element
  of an array of tables.
-/

namespace Sift

/-- How a table is written. -/
inductive Toml.TableForm where
  | braces
  | header
  | dottedKey
  | implied
  deriving DecidableEq

/-- A value of a document. Numbers with a fraction and moments are not told apart. -/
inductive Toml where
  | string (value : String)
  | integer (value : Int)
  | boolean (value : Bool)
  | other
  | array (elements : List Toml)
  | table (form : Toml.TableForm) (entries : List (String × Toml))
  | tables (elements : List (List (String × Toml)))

namespace Toml

/-- The values of a table, under their keys. -/
abbrev Entries := List (String × Toml)

namespace Entries

def find? (key : String) (entries : Entries) : Option Toml :=
  entries.lookup key

/-- Puts a value under a key, in place of what was there. -/
def put (key : String) (value : Toml) : Entries → Entries
  | [] => [(key, value)]
  | (k, old) :: rest => if k = key then (k, value) :: rest else (k, old) :: put key value rest

/-- Changes the table at a path, making the tables on the way that are missing. An array of tables
stands for its last element. The change is told whether a dotted key made the table. -/
def update? (dotted : Bool) (change : Bool → Entries → Option Entries) :
    List String → Bool → Entries → Option Entries
  | [], madeByKey, entries => change madeByKey entries
  | key :: path, _, entries =>
    match find? key entries with
    | none => do
      let entries' ← update? dotted change path dotted []
      return put key (.table (if dotted then .dottedKey else .implied) entries') entries
    | some (.table form inner) =>
      if form = .braces || (dotted && form = .header) then none
      else do
        let inner' ← update? dotted change path (form = .dottedKey) inner
        return put key (.table form inner') entries
    | some (.tables elements) =>
      match elements.getLast? with
      | none => none
      | some last => do
        let last' ← update? dotted change path false last
        return put key (.tables (elements.dropLast ++ [last'])) entries
    | some _ => none

/-- Puts a value under a dotted key, given as the path and the last part. Nothing may stand there,
and a table that a header implied does not grow this way. -/
def insert? (path : List String) (key : String) (value : Toml) (entries : Entries) :
    Option Entries :=
  update? true (fun madeByKey inner =>
    if madeByKey = path.isEmpty || (find? key inner).isSome then none
    else some (put key value inner)) path false entries

/-- Opens the table of a header, given as the path and the last part. -/
def open? (path : List String) (key : String) (entries : Entries) : Option Entries :=
  update? false (fun _ inner =>
    match find? key inner with
    | none => some (put key (.table .header []) inner)
    | some (.table .implied opened) => some (put key (.table .header opened) inner)
    | some _ => none) path false entries

/-- Adds an element to the array of tables of a header, given as the path and the last part. -/
def openNext? (path : List String) (key : String) (entries : Entries) : Option Entries :=
  update? false (fun _ inner =>
    match find? key inner with
    | none => some (put key (.tables [[]]) inner)
    | some (.tables elements) => some (put key (.tables (elements ++ [[]])) inner)
    | some _ => none) path false entries

end Entries

end Toml

end Sift
