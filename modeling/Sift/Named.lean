/-
**Values under names.**

A list of pairs, sorted by name and with no name twice, stands for a finite map from names to
values.

* `find?` — the value under a name.
* `put` — the map with a value put under a name, in place of what was there.
* `Sorted` — what `put` and `keep` preserve.
-/

namespace Sift

/-- Values under names, in the order of the names. -/
abbrev Named (α : Type) := List (String × α)

namespace Named

variable {α : Type}

def find? (name : String) : Named α → Option α
  | [] => none
  | (key, value) :: rest => if key = name then some value else find? name rest

/-- Puts a value under a name, in place of what was there. -/
def put (name : String) (value : α) : Named α → Named α
  | [] => [(name, value)]
  | (key, old) :: rest =>
    if name < key then (name, value) :: (key, old) :: rest
    else if key = name then (name, value) :: rest
    else (key, old) :: put name value rest

/-- Keeps the values whose names pass the test. -/
def keep (test : String → Bool) (named : Named α) : Named α :=
  named.filter fun entry => test entry.1

/-- The names stand in ascending order, each once. -/
def Sorted (named : Named α) : Prop :=
  named.Pairwise fun a b => a.1 < b.1

/-- The pairs put one after another, so that the last value under a name stays. -/
def ofList (entries : List (String × α)) : Named α :=
  entries.foldl (fun named entry => put entry.1 entry.2 named) []

/-- Keeping some of the names leaves them sorted. -/
theorem Sorted.keep {named : Named α} (sorted : named.Sorted) (test : String → Bool) :
    (named.keep test).Sorted :=
  List.Pairwise.filter _ sorted

theorem find?_put_self (name : String) (value : α) (named : Named α) :
    find? name (put name value named) = some value := by
  fun_induction put name value named <;> simp_all [find?]

theorem find?_put_of_ne {name other : String} (differ : other ≠ name) (value : α)
    (named : Named α) : find? other (put name value named) = find? other named := by
  fun_induction put name value named <;> simp_all [find?, Ne.symm differ]

end Named

end Sift
