/-
**Stable sorting.**

`stableSort` inserts one element after another into what is sorted already, each behind everything
that is not greater. Elements of which neither is less keep their order, and the result is defined
for any comparison, transitive or not.

* `perm_stableSort` — the result holds the same elements.
* `stableSort_of_not_less` — where nothing is less, nothing moves.
* `stableSort_map` — what compares alike is sorted alike.
-/

namespace Sift

variable {α : Type}

/-- Inserts an element into a list given from its greatest element down, in front of everything that
is not greater. -/
def insertDown (less : α → α → Bool) (x : α) : List α → List α
  | [] => [x]
  | y :: rest => if less x y then y :: insertDown less x rest else x :: y :: rest

/-- The elements in ascending order. -/
def stableSort (less : α → α → Bool) (elements : List α) : List α :=
  (elements.foldl (fun sorted x => insertDown less x sorted) []).reverse

example : stableSort (fun a b => a.1 < b.1) [(2, 'a'), (1, 'b'), (2, 'c'), (1, 'd')] =
    [(1, 'b'), (1, 'd'), (2, 'a'), (2, 'c')] := by decide

theorem perm_insertDown (less : α → α → Bool) (x : α) (sorted : List α) :
    (insertDown less x sorted).Perm (x :: sorted) := by
  fun_induction insertDown less x sorted with
  | case1 => exact .refl _
  | case2 y rest _ ih => exact (ih.cons y).trans (.swap x y rest)
  | case3 => exact .refl _

/-- Sorting keeps the elements. -/
theorem perm_stableSort (less : α → α → Bool) (elements : List α) :
    (stableSort less elements).Perm elements := by
  suffices grown : ∀ sorted : List α,
      (elements.foldl (fun sorted x => insertDown less x sorted) sorted).Perm
        (elements ++ sorted) by
    exact (List.reverse_perm _).trans (by simpa using grown [])
  induction elements with
  | nil => exact fun sorted => .refl _
  | cons x rest ih =>
    intro sorted
    refine (ih _).trans ?_
    exact ((perm_insertDown less x sorted).append_left rest).trans List.perm_middle

/-- Where nothing is less than anything, nothing moves. -/
theorem stableSort_of_not_less {less : α → α → Bool} (never : ∀ a b, less a b = false)
    (elements : List α) : stableSort less elements = elements := by
  have front : ∀ (x : α) (sorted : List α), insertDown less x sorted = x :: sorted := by
    intro x sorted
    cases sorted with
    | nil => rfl
    | cons y rest => rw [insertDown, never, if_neg Bool.false_ne_true]
  suffices grown : ∀ sorted : List α,
      elements.foldl (fun sorted x => insertDown less x sorted) sorted
        = elements.reverse ++ sorted by
    rw [stableSort, grown, List.append_nil, List.reverse_reverse]
  induction elements with
  | nil => exact fun sorted => rfl
  | cons x rest ih =>
    intro sorted
    rw [List.foldl_cons, front, ih, List.reverse_cons, List.append_assoc]
    rfl

theorem insertDown_map {β : Type} {less : α → α → Bool} {other : β → β → Bool} {f : α → β}
    (same : ∀ a b, other (f a) (f b) = less a b) (x : α) (sorted : List α) :
    insertDown other (f x) (sorted.map f) = (insertDown less x sorted).map f := by
  induction sorted with
  | nil => rfl
  | cons y rest ih =>
    rw [List.map_cons, insertDown, insertDown, same, ih]
    split <;> rfl

/-- What is put in place of elements and compares as they do is sorted as they are. -/
theorem stableSort_map {β : Type} {less : α → α → Bool} {other : β → β → Bool} {f : α → β}
    (same : ∀ a b, other (f a) (f b) = less a b) (elements : List α) :
    stableSort other (elements.map f) = (stableSort less elements).map f := by
  suffices grown : ∀ sorted : List α,
      (elements.map f).foldl (fun sorted x => insertDown other x sorted) (sorted.map f)
        = (elements.foldl (fun sorted x => insertDown less x sorted) sorted).map f by
    rw [stableSort, stableSort, List.map_reverse, ← grown []]
    rfl
  induction elements with
  | nil => exact fun sorted => rfl
  | cons x rest ih =>
    intro sorted
    rw [List.map_cons, List.foldl_cons, List.foldl_cons, insertDown_map same, ih]

end Sift
