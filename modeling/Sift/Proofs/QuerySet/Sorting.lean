/-
**The order of entries.**

Entries are ordered as the values under their keys are, so their order is a total preorder where the
order of those values is. `sorting_settled`: the order of values can always be turned around, it
chains among settled values, and entries whose values are settled have one stable arrangement, which
is what sorting gives. `sorting_unsettled`: without that the order need not chain, and sorting may
leave a greater entry in front of a smaller one.
-/

import Sift.Proofs.Sorting
import Sift.Proofs.Value.Order
import Sift.QuerySet.Sorting

namespace Sift

namespace SortKey

theorem compareValues_swap (a b : Option Value) :
    compareValues a b = (compareValues b a).swap := by
  rcases a with _ | a <;> rcases b with _ | b
  · rfl
  · rfl
  · rfl
  · exact Value.sortCompare_swap a b

/-- A missing value comes before all others. -/
theorem compareValues_chained {a b c : Option Value}
    (settled : ∀ x ∈ a, ∀ y ∈ b, ∀ z ∈ c, x.Settled y ∧ y.Settled z ∧ x.Settled z) :
    Chained (some (compareValues a b)) (some (compareValues b c)) (some (compareValues a c)) := by
  refine .of_key (fun a b => some (compareValues a b)) (fun value => value.isSome.toNat)
    (fun a b apart => ?_) fun tie tie' => ?_
  · cases a <;> cases b <;> first | rfl | exact absurd rfl apart
  · match a, b, c with
    | none, none, none => exact .of_cmp (Ord.compare : Nat → Nat → Ordering) 0 0 0
    | some x, some y, some z =>
      obtain ⟨xy, yz, xz⟩ := settled x rfl y rfl z rfl
      exact Value.sortCompare_chained xy yz xz

theorem compare_swap (key : SortKey) (a b : Entry Item) :
    key.compare a b = (key.compare b a).swap := by
  simp only [compare]
  rw [compareValues_swap (Entry.valueAt b key.path)]
  split <;> rw [Ordering.swap_swap]

end SortKey

/-- Every two values that some entries have under one of the keys are settled. -/
def SettledUnder (keys : List SortKey) (entries : List (Entry Item)) : Prop :=
  ∀ key ∈ keys, ∀ x ∈ entries, ∀ y ∈ entries,
    ∀ a ∈ Entry.valueAt x key.path, ∀ b ∈ Entry.valueAt y key.path, a.Settled b

theorem compareEntries_swap (keys : List SortKey) (a b : Entry Item) :
    compareEntries keys a b = (compareEntries keys b a).swap := by
  induction keys with
  | nil => rfl
  | cons key rest ih =>
    rw [compareEntries, compareEntries, Ordering.swap_then, ← key.compare_swap, ← ih]

/-- The orders of three entries agree where the values under each key are settled. -/
theorem compareEntries_chained {keys : List SortKey} {entries : List (Entry Item)}
    (settled : SettledUnder keys entries) {a b c : Entry Item} (inA : a ∈ entries)
    (inB : b ∈ entries) (inC : c ∈ entries) :
    Chained (some (compareEntries keys a b)) (some (compareEntries keys b c))
      (some (compareEntries keys a c)) := by
  induction keys with
  | nil => exact .of_cmp (Ord.compare : Nat → Nat → Ordering) 0 0 0
  | cons key rest ih =>
    have values := SortKey.compareValues_chained (a := Entry.valueAt a key.path)
      fun x inX y inY z inZ =>
        ⟨settled key List.mem_cons_self a inA b inB x inX y inY,
          settled key List.mem_cons_self b inB c inC y inY z inZ,
          settled key List.mem_cons_self a inA c inC x inX z inZ⟩
    have first : Chained (some (key.compare a b)) (some (key.compare b c))
        (some (key.compare a c)) := by
      simp only [SortKey.compare]
      split
      · exact values.swap
      · exact values
    exact first.andThen fun _ _ => ih fun key member => settled key (List.mem_cons_of_mem _ member)

theorem preorders_of_settled {keys : List SortKey} {entries : List (Entry Item)}
    (settled : SettledUnder keys entries) : Preorders (compareEntries keys) entries where
  swap := compareEntries_swap keys
  trans _ inA _ inB _ inC := (compareEntries_chained settled inA inB inC).isLE

/-- **Among settled values the order is a total preorder, and sorting gives the one stable
arrangement of the entries that have them.** -/
theorem sorting_settled (a b c : Value) (keys : List SortKey) (entries : List (Entry Item)) :
    a.sortCompare b = (b.sortCompare a).swap ∧
    (a.Settled b → b.Settled c → a.Settled c →
      ((a.sortCompare b).isLE = true → (b.sortCompare c).isLE = true →
        (a.sortCompare c).isLE = true) ∧
      (a.sortCompare b = .eq → b.sortCompare c = .eq → a.sortCompare c = .eq)) ∧
    (SettledUnder keys entries → ∀ sorted,
      StablySorted (compareEntries keys) entries sorted ↔ sorted = sortEntries keys entries) := by
  refine ⟨Value.sortCompare_swap a b, fun ab bc ac => ?_, fun settled sorted => ?_⟩
  · have chained := Value.sortCompare_chained ab bc ac
    refine ⟨chained.isLE, fun tie tie' => ?_⟩
    exact (Option.some.inj (chained.left tie)).trans tie'
  · exact stablySorted_iff (preorders_of_settled settled)

/-- Two numbers, one of them a decimal, and a failure: the failure comes first and the order is that
of the numbers. Two lists with different labels are settled by these, whatever else they hold. -/
theorem sorting_settled_sizes :
    let small : Value := .decimal ⟨150, 2, by decide, by decide⟩
    let large : Value := .int 2
    let home : Value := .list [.labeled "home" large, .record []]
    let work : Value := .list [.labeled "work" small, .int 0]
    let entry (id : String) (size : Value) : Entry Item := .ok ⟨⟨id, none⟩, [("size", size)]⟩
    let failure : Entry Item := .error (.itemNotFound "c")
    let keys : List SortKey := [⟨.ofField "size", false⟩]
    let entries := [entry "a" large, entry "b" small, failure]
    (small.Settled home ∧ home.Settled work ∧ small.Settled work) ∧
      ((small.sortCompare home).isLE = true ∧ (home.sortCompare work).isLE = true ∧
        (small.sortCompare work).isLE = true) ∧
      SettledUnder keys entries ∧
      StablySorted (compareEntries keys) entries [failure, entry "b" small, entry "a" large] := by
  intro small large home work entry failure keys entries
  have labels : home.Settled work :=
    .inr (.cons (.labeled fun same => absurd same (by decide)) fun tie => absurd tie (by decide))
  have before : small.Settled home := .inl (by decide)
  have before' : small.Settled work := .inl (by decide)
  have numbers : ∀ a ∈ [large, small], ∀ b ∈ [large, small], a.Settled b := by
    intro a inA b inB
    simp only [List.mem_cons, List.not_mem_nil, or_false] at inA inB
    rcases inA with rfl | rfl <;> rcases inB with rfl | rfl <;>
      exact .inr (.number rfl rfl (by decide +kernel))
  have sizes : ∀ x ∈ entries, ∀ a ∈ Entry.valueAt x (.ofField "size"), a ∈ [large, small] := by
    intro x inX a inA
    simp only [entries, List.mem_cons, List.not_mem_nil, or_false] at inX
    rcases inX with rfl | rfl | rfl
    · cases (inA : some large = some a)
      exact List.mem_cons_self
    · cases (inA : some small = some a)
      exact List.mem_cons_of_mem _ List.mem_cons_self
    · cases (inA : none = some a)
  have settled : SettledUnder keys entries := by
    intro key inKeys x inX y inY a inA b inB
    cases List.mem_singleton.mp inKeys
    exact numbers a (sizes x inX a inA) b (sizes y inY b inB)
  obtain ⟨-, trans, unique⟩ := sorting_settled small home work keys entries
  refine ⟨⟨before, labels, before'⟩, ⟨by decide, by decide, ?_⟩, settled, ?_⟩
  · exact (trans before labels before').1 (by decide) (by decide)
  · exact (unique settled _).mpr rfl

/-- Sizes `[2]`, `['x']` and `[1]`, in this order: the second ties with both others, because a number
is not comparable with a word, though the first is greater than the last. Sorting leaves them as
they are. A moment without a zone ties in the same way with a later and an earlier one that have a
zone, and a decimal with two that differ by less than floats can tell. -/
theorem sorting_unsettled :
    let two : Value := .list [.int 2]
    let word : Value := .list [.text "x"]
    let one : Value := .list [.int 1]
    let morning : DateTime := ⟨⟨2024, 5, 1, by decide⟩, ⟨540, 0, 0⟩⟩
    let evening : DateTime := ⟨⟨2024, 5, 1, by decide⟩, ⟨1200, 0, 0⟩⟩
    let zoned (t : DateTime) : Value := .timestamp ⟨t, .zero, t, t.shift?_zero⟩
    let larger : Value :=
      .decimal ⟨17014118346046923173168730371588410574, 0, by decide, by decide⟩
    let smaller : Value :=
      .decimal ⟨17014118346046923173168730371588410573, 0, by decide, by decide⟩
    let shifted : Value :=
      .decimal ⟨170141183460469231731687303715884105727, 1, by decide, by decide⟩
    let entry (id : String) (size : Value) : Entry Item := .ok ⟨⟨id, none⟩, [("size", size)]⟩
    let entries := [entry "a" two, entry "b" word, entry "c" one]
    let keys : List SortKey := [⟨.ofField "size", false⟩]
    (two.sortCompare word = .eq ∧ word.sortCompare one = .eq ∧ two.sortCompare one = .gt) ∧
      ((zoned evening).sortCompare (.dateTime morning) = .eq ∧
        (Value.dateTime morning).sortCompare (zoned morning) = .eq ∧
        (zoned evening).sortCompare (zoned morning) = .gt) ∧
      (larger.sortCompare shifted = .eq ∧ shifted.sortCompare smaller = .eq ∧
        larger.sortCompare smaller = .gt) ∧
      sortEntries keys entries = entries ∧
      ¬(sortEntries keys entries).Pairwise fun a b => (compareEntries keys a b).isLE = true := by
  intro two word one morning evening zoned larger smaller shifted entry entries keys
  have unmoved : sortEntries keys entries = entries := rfl
  refine ⟨by decide, by decide, by decide +kernel, unmoved, ?_⟩
  rw [unmoved]
  decide

end Sift
