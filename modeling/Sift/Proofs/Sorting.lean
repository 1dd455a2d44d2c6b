/-
**Stable sorting has one result.**

`StablySorted` says what the stable arrangement of some elements is: the same elements, none of them
after a greater one, and those that tie with one another in the order that they had.

* `stablySorted_iff` — where the comparison is a total preorder on the elements, `stableSort` gives
  the one arrangement of this kind.
* `StablySorted.sublist`, `StablySorted.of_sublist` — elements that all tie come as they came.
* `Rearranged`, `Rearranged.stableSort_eq` — sorting by a key does not see in which order elements
  come, as long as those with one key come as before.
-/

import Mathlib.Data.List.Basic
import Mathlib.Data.String.Basic
import Sift.Sorting

namespace Sift

variable {α : Type} {cmp : α → α → Ordering} {elements : List α}

/-- A comparison is a total preorder on some elements. -/
structure Preorders (cmp : α → α → Ordering) (elements : List α) : Prop where
  swap : ∀ a b, cmp a b = (cmp b a).swap
  trans : ∀ a ∈ elements, ∀ b ∈ elements, ∀ c ∈ elements,
    (cmp a b).isLE = true → (cmp b c).isLE = true → (cmp a c).isLE = true

/-- The stable arrangement of some elements. -/
structure StablySorted (cmp : α → α → Ordering) (elements sorted : List α) : Prop where
  perm : sorted.Perm elements
  ascending : sorted.Pairwise fun a b => (cmp a b).isLE = true
  stable : ∀ x ∈ elements,
    sorted.filter (fun y => cmp x y == .eq) = elements.filter (fun y => cmp x y == .eq)

namespace Preorders

theorem self (preorders : Preorders cmp elements) (a : α) : cmp a a = .eq := by
  have turned := preorders.swap a a
  cases order : cmp a a <;> simp [order] at turned ⊢

/-- What is not less is not greater the other way round. -/
theorem isLE_of_not_less (preorders : Preorders cmp elements) {a b : α}
    (notLess : ¬(cmp a b == .lt) = true) : (cmp b a).isLE = true := by
  rw [preorders.swap b a]
  cases order : cmp a b <;> simp [order] at notLess ⊢

/-- Elements of which neither is greater tie. -/
theorem tie_of_isLE (preorders : Preorders cmp elements) {a b : α} (first : (cmp a b).isLE = true)
    (second : (cmp b a).isLE = true) : cmp a b = .eq := by
  rw [preorders.swap b a] at second
  cases order : cmp a b <;> simp [order] at first second ⊢

/-- Elements that tie with one element tie with each other. -/
theorem tie_trans (preorders : Preorders cmp elements) {a b c : α} (inA : a ∈ elements)
    (inB : b ∈ elements) (inC : c ∈ elements) (first : cmp a b = .eq) (second : cmp a c = .eq) :
    cmp b c = .eq := by
  have back : ∀ {d}, cmp a d = .eq → cmp d a = .eq := by
    intro d tie
    rw [preorders.swap, tie]
    rfl
  refine preorders.tie_of_isLE (preorders.trans b inB a inA c inC ?_ ?_)
    (preorders.trans c inC a inA b inB ?_ ?_)
  · rw [back first]
    rfl
  · rw [second]
    rfl
  · rw [back second]
    rfl
  · rw [first]
    rfl

/-! ### The sort gives a stable arrangement -/

/-- Putting an element in its place keeps the descending order. -/
theorem descending_insertDown (preorders : Preorders cmp elements) {x : α} {sorted : List α}
    (inX : x ∈ elements) (inSorted : ∀ y ∈ sorted, y ∈ elements)
    (descending : sorted.Pairwise fun a b => (cmp b a).isLE = true) :
    (insertDown (fun a b => cmp a b == .lt) x sorted).Pairwise
      fun a b => (cmp b a).isLE = true := by
  induction sorted with
  | nil => exact List.pairwise_singleton _ _
  | cons y rest ih =>
    have inY : y ∈ elements := inSorted y List.mem_cons_self
    have inRest : ∀ z ∈ rest, z ∈ elements := fun z member =>
      inSorted z (List.mem_cons_of_mem y member)
    obtain ⟨below, ordered⟩ := List.pairwise_cons.mp descending
    rw [insertDown]
    split
    · rename_i less
      refine List.pairwise_cons.mpr ⟨fun z member => ?_, ih inRest ordered⟩
      rcases List.mem_cons.mp ((perm_insertDown _ x rest).mem_iff.mp member) with rfl | member
      · rw [beq_iff_eq.mp less]
        rfl
      · exact below z member
    · rename_i notLess
      have front : (cmp y x).isLE = true := preorders.isLE_of_not_less notLess
      refine List.pairwise_cons.mpr ⟨fun z member => ?_, descending⟩
      rcases List.mem_cons.mp member with rfl | member
      · exact front
      · exact preorders.trans z (inRest z member) y inY x inX (below z member) front

/-- Putting an element in its place moves it past none that tie with it. -/
theorem filter_insertDown (preorders : Preorders cmp elements) {x z : α} {sorted : List α}
    (inZ : z ∈ elements) (inX : x ∈ elements) (inSorted : ∀ y ∈ sorted, y ∈ elements) :
    (insertDown (fun a b => cmp a b == .lt) x sorted).filter (fun y => cmp z y == .eq)
      = (x :: sorted).filter (fun y => cmp z y == .eq) := by
  induction sorted with
  | nil => rfl
  | cons y rest ih =>
    have inY : y ∈ elements := inSorted y List.mem_cons_self
    rw [insertDown]
    split
    · rename_i less
      have apart : ¬((cmp z x == .eq) = true ∧ (cmp z y == .eq) = true) := by
        rintro ⟨tieX, tieY⟩
        have tie := preorders.tie_trans inZ inX inY (beq_iff_eq.mp tieX) (beq_iff_eq.mp tieY)
        rw [tie] at less
        exact absurd less (by decide)
      have moved := ih fun w member => inSorted w (List.mem_cons_of_mem y member)
      simp only [List.filter_cons] at moved ⊢
      rw [moved]
      by_cases tieX : (cmp z x == .eq) = true
      · have other : ¬(cmp z y == .eq) = true := fun tieY => apart ⟨tieX, tieY⟩
        simp only [tieX, other, if_true, if_false, Bool.false_eq_true]
      · simp only [tieX, if_false, Bool.false_eq_true]
    · rfl

/-- What one after another is put in its place. -/
theorem foldl_insertDown (preorders : Preorders cmp elements) {more sorted : List α}
    (inMore : ∀ x ∈ more, x ∈ elements) (inSorted : ∀ y ∈ sorted, y ∈ elements)
    (descending : sorted.Pairwise fun a b => (cmp b a).isLE = true) :
    (more.foldl (fun sorted x => insertDown (fun a b => cmp a b == .lt) x sorted) sorted).Pairwise
        (fun a b => (cmp b a).isLE = true) ∧
      ∀ z ∈ elements,
        (more.foldl (fun sorted x => insertDown (fun a b => cmp a b == .lt) x sorted)
            sorted).filter (fun y => cmp z y == .eq)
          = (more.reverse ++ sorted).filter (fun y => cmp z y == .eq) := by
  induction more generalizing sorted with
  | nil => exact ⟨descending, fun _ _ => rfl⟩
  | cons x rest ih =>
    have inX : x ∈ elements := inMore x List.mem_cons_self
    have inRest : ∀ y ∈ rest, y ∈ elements := fun y member =>
      inMore y (List.mem_cons_of_mem x member)
    have inPlaced : ∀ y ∈ insertDown (fun a b => cmp a b == .lt) x sorted, y ∈ elements := by
      intro y member
      rcases List.mem_cons.mp ((perm_insertDown _ x sorted).mem_iff.mp member) with rfl | member
      · exact inX
      · exact inSorted y member
    obtain ⟨ordered, kept⟩ :=
      ih inRest inPlaced (preorders.descending_insertDown inX inSorted descending)
    refine ⟨ordered, fun z inZ => (kept z inZ).trans ?_⟩
    rw [List.filter_append, preorders.filter_insertDown inZ inX inSorted, ← List.filter_append,
      List.reverse_cons, List.append_assoc]
    rfl

/-- The sort is a stable arrangement. -/
theorem stablySorted_stableSort (preorders : Preorders cmp elements) :
    StablySorted cmp elements (stableSort (fun a b => cmp a b == .lt) elements) := by
  have nothing : ∀ y ∈ ([] : List α), y ∈ elements := nofun
  obtain ⟨descending, kept⟩ :=
    preorders.foldl_insertDown (fun _ member => member) nothing List.Pairwise.nil
  refine ⟨perm_stableSort _ _, List.pairwise_reverse.mpr descending, fun x member => ?_⟩
  rw [stableSort, List.filter_reverse, kept x member, List.append_nil, List.filter_reverse,
    List.reverse_reverse]

end Preorders

/-! ### There is no other -/

/-- Ordered lists of the same elements are one where elements that tie come in the same order. -/
theorem eq_of_stable (preorders : Preorders cmp elements) {first second : List α}
    (perm : first.Perm second) (ascending : first.Pairwise fun a b => (cmp a b).isLE = true)
    (ascending' : second.Pairwise fun a b => (cmp a b).isLE = true)
    (stable : ∀ x ∈ first,
      first.filter (fun y => cmp x y == .eq) = second.filter (fun y => cmp x y == .eq)) :
    first = second := by
  induction first generalizing second with
  | nil => exact perm.nil_eq
  | cons x rest ih =>
    cases second with
    | nil => exact absurd perm.eq_nil (List.cons_ne_nil x rest)
    | cons y other =>
      obtain ⟨above, ordered⟩ := List.pairwise_cons.mp ascending
      obtain ⟨above', ordered'⟩ := List.pairwise_cons.mp ascending'
      -- Each head stands somewhere in the other list, so neither is greater than the other.
      have least : (cmp x y).isLE = true := by
        rcases List.mem_cons.mp (perm.mem_iff.mpr List.mem_cons_self) with rfl | member
        · rw [preorders.self]
          rfl
        · exact above y member
      have least' : (cmp y x).isLE = true := by
        rcases List.mem_cons.mp (perm.mem_iff.mp List.mem_cons_self) with rfl | member
        · rw [preorders.self]
          rfl
        · exact above' x member
      have heads := stable x List.mem_cons_self
      simp only [List.filter_cons, preorders.self, preorders.tie_of_isLE least least',
        beq_self_eq_true, if_true] at heads
      obtain rfl : x = y := (List.cons.inj heads).1
      refine congrArg (x :: ·) (ih (List.perm_cons x |>.mp perm) ordered ordered' fun z member => ?_)
      have tails := stable z (List.mem_cons_of_mem x member)
      simp only [List.filter_cons] at tails
      split at tails
      · exact (List.cons.inj tails).2
      · exact tails

/-- **The stable arrangement of elements that are totally preordered is the sorted list.** -/
theorem stablySorted_iff (preorders : Preorders cmp elements) {sorted : List α} :
    StablySorted cmp elements sorted ↔
      sorted = stableSort (fun a b => cmp a b == .lt) elements := by
  have sort := preorders.stablySorted_stableSort
  constructor
  · intro stably
    refine eq_of_stable preorders (stably.perm.trans sort.perm.symm) stably.ascending
      sort.ascending fun x member => ?_
    have inX : x ∈ elements := stably.perm.mem_iff.mp member
    rw [stably.stable x inX, sort.stable x inX]
  · rintro rfl
    exact sort

/-! ### Elements that tie -/

/-- Elements that all tie come in a stable arrangement as they came before. -/
theorem StablySorted.sublist {sorted tied : List α} (stably : StablySorted cmp elements sorted)
    (preorders : Preorders cmp elements) (among : tied.Sublist elements)
    (ties : tied.Pairwise fun a b => cmp a b = .eq) : tied.Sublist sorted := by
  cases tied with
  | nil => exact List.nil_sublist _
  | cons x rest =>
    have inX : x ∈ elements := among.subset List.mem_cons_self
    have all : (x :: rest).filter (fun y => cmp x y == .eq) = x :: rest := by
      refine List.filter_eq_self.mpr fun y member => beq_iff_eq.mpr ?_
      rcases List.mem_cons.mp member with rfl | later
      · exact preorders.self y
      · exact (List.pairwise_cons.mp ties).1 y later
    have within := among.filter fun y => cmp x y == .eq
    rw [all, ← stably.stable x inX] at within
    exact within.trans List.filter_sublist

/-- Ordered elements are in a stable arrangement where all those that tie come as they came
before. -/
theorem StablySorted.of_sublist {sorted : List α} (preorders : Preorders cmp elements)
    (perm : sorted.Perm elements) (ascending : sorted.Pairwise fun a b => (cmp a b).isLE = true)
    (stable : ∀ tied : List α, tied.Sublist elements →
      (tied.Pairwise fun a b => cmp a b = .eq) → tied.Sublist sorted) :
    StablySorted cmp elements sorted := by
  refine ⟨perm, ascending, fun x inX => ?_⟩
  have ties : (elements.filter fun y => cmp x y == .eq).Pairwise fun a b => cmp a b = .eq := by
    refine List.pairwise_of_forall_mem_list fun a inA b inB => ?_
    obtain ⟨memberA, tieA⟩ := List.mem_filter.mp inA
    obtain ⟨memberB, tieB⟩ := List.mem_filter.mp inB
    exact preorders.tie_trans inX memberA memberB (beq_iff_eq.mp tieA) (beq_iff_eq.mp tieB)
  have within := (stable _ List.filter_sublist ties).filter fun y => cmp x y == .eq
  rw [List.filter_filter] at within
  simp only [Bool.and_self] at within
  exact (within.eq_of_length (perm.filter _).length_eq.symm).symm

/-! ### Elements put in another order -/

/-- Keys put elements in a total preorder. -/
theorem preorders_of_key (key : α → String) (elements : List α) :
    Preorders (fun a b => Ord.compare (key a) (key b)) elements where
  swap a b := (Std.OrientedCmp.eq_swap : Ord.compare (key a) (key b) = _)
  trans a _ b _ c _ first second := by
    have first : (Ord.compare (key a) (key b)).isLE = true := first
    exact Std.TransCmp.isLE_trans first second

/-- Some elements in another order, in which those with one key stand to each other as before. -/
structure Rearranged {κ : Type} [DecidableEq κ] (key : α → κ) (elements others : List α) :
    Prop where
  perm : others.Perm elements
  kept : ∀ k, others.filter (fun x => key x = k) = elements.filter (fun x => key x = k)

namespace Rearranged

variable {β κ : Type} [DecidableEq κ] {key : α → κ} {others : List α}

/-- Where no two elements have one key, every order keeps those with one key as before. -/
theorem of_distinct (perm : others.Perm elements)
    (distinct : elements.Pairwise fun a b => key a ≠ key b) : Rearranged key elements others := by
  refine ⟨perm, fun k => ?_⟩
  have same := perm.filter fun x => key x = k
  have apart : (elements.filter fun x => key x = k).Pairwise fun a b => key a ≠ key b :=
    distinct.sublist List.filter_sublist
  have keyed : ∀ x ∈ elements.filter (fun x => key x = k), key x = k := fun x member => by
    simpa using (List.mem_filter.mp member).2
  generalize elements.filter (fun x => key x = k) = group at same apart keyed ⊢
  rcases group with _ | ⟨x, _ | ⟨y, rest⟩⟩
  · exact same.eq_nil
  · exact List.perm_singleton.mp same
  · refine absurd ?_ ((List.pairwise_cons.mp apart).1 y List.mem_cons_self)
    exact (keyed x (by simp)).trans (keyed y (by simp)).symm

/-- Neighbours with different keys may change places. -/
theorem swap {x y : α} (apart : key x ≠ key y) (rest : List α) :
    Rearranged key (x :: y :: rest) (y :: x :: rest) := by
  refine ⟨.swap x y rest, fun k => ?_⟩
  by_cases first : key x = k
  · have second : ¬key y = k := fun tie => apart (first.trans tie.symm)
    simp [first, second]
  · simp [List.filter_cons, first]

/-- What is made of the elements one by one is in the other order too, if each has the key of what
it was made of. -/
theorem filterMap {κ' : Type} [DecidableEq κ'] (rearranged : Rearranged key elements others)
    {made : α → Option β} {key' : β → κ'} {embed : κ' → κ} (injective : Function.Injective embed)
    (same : ∀ x y, made x = some y → key x = embed (key' y)) :
    Rearranged key' (elements.filterMap made) (others.filterMap made) := by
  refine ⟨rearranged.perm.filterMap made, fun k => ?_⟩
  have inFront : ∀ list : List α, (list.filterMap made).filter (fun y => key' y = k)
      = (list.filter fun x => key x = embed k).filterMap made := by
    intro list
    rw [List.filter_filterMap, List.filterMap_filter]
    refine List.filterMap_congr fun x _ => ?_
    cases found : made x with
    | none => simp
    | some y =>
      have keyed : key x = embed k ↔ key' y = k := by
        rw [same x y found]
        exact injective.eq_iff
      by_cases tie : key' y = k <;> simp [keyed, tie, Option.filter]
  rw [inFront, inFront, rearranged.kept]

/-- **To sort by the key leaves no trace of the other order.** -/
theorem stableSort_eq {key : α → String} (rearranged : Rearranged key elements others) :
    stableSort (fun a b => key a < key b) others
      = stableSort (fun a b => key a < key b) elements := by
  have preorders := preorders_of_key key
  have less : (fun a b => decide (key a < key b))
      = fun a b => Ord.compare (key a) (key b) == .lt := by
    funext a b
    rw [Bool.eq_iff_iff, decide_eq_true_iff, beq_iff_eq, compare_lt_iff_lt]
  have sorted := (preorders others).stablySorted_stableSort
  rw [less]
  refine (stablySorted_iff (preorders elements)).mp
    ⟨sorted.perm.trans rearranged.perm, sorted.ascending, fun x member => ?_⟩
  have ties : (fun y => Ord.compare (key x) (key y) == .eq) = fun y => decide (key y = key x) := by
    funext y
    rw [Bool.eq_iff_iff, decide_eq_true_iff, beq_iff_eq, compare_eq_iff_eq, eq_comm]
  rw [sorted.stable x (rearranged.perm.mem_iff.mpr member), ties, rearranged.kept]

end Rearranged

end Sift
