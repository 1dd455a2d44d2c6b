/-
**When the order of values is one.**

Two values of one kind are compared as what they hold, values of different kinds by their kinds. A
list can have elements of several kinds, though, and where two of them meet the comparison of the
lists is left open, whatever comes behind them.

* `Value.sortCompare_swap` — turning two values around turns their order around, always.
* `Value.Alike` — a comparison that meets no two kinds of value, and no two numbers that cannot be
  brought to one scale.
* `Value.Settled` — two values that are alike, or whose kinds decide.
* `Value.sortCompare_chained` — among settled values the order is a total preorder.
-/

import Sift.Proofs.Calendar.Order
import Sift.Proofs.Chained
import Sift.Proofs.Decimal.Order
import Sift.Value.Order

namespace Sift

namespace Value

/-! ### Turning a comparison around -/

theorem compare_labeled (l m : String) (x y : Value) :
    (Value.labeled l x).compare (.labeled m y)
      = breakTie (some (Ord.compare l m)) (x.compare y) := by
  rw [compare]
  cases Ord.compare l m <;> rfl

theorem compareAll_cons (a b : Value) (as bs : List Value) :
    compareAll (a :: as) (b :: bs) = breakTie (a.compare b) (compareAll as bs) := by
  rw [compareAll]
  rcases a.compare b with _ | _ | _ | _ <;> rfl

/-- A comparison that gives an order gives the opposite one when it is turned around. -/
theorem some_swap {α : Type} (cmp : α → α → Ordering) [Std.OrientedCmp cmp] (a b : α) :
    some (cmp a b) = (some (cmp b a)).map Ordering.swap :=
  congrArg some Std.OrientedCmp.eq_swap

instance : Std.OrientedCmp Decimal.compare := ⟨Decimal.compare_swap _ _⟩

mutual

theorem compare_swap : ∀ a b : Value, a.compare b = (b.compare a).map Ordering.swap
  | .null, b => by cases b <;> rfl
  | .bool _, b => by
    cases b <;> first | rfl | exact some_swap (Ord.compare : Nat → Nat → Ordering) _ _
  | .int _, b => by
    cases b <;> first | rfl | exact some_swap (Ord.compare : Int → Int → Ordering) _ _ |
      exact some_swap Decimal.compare _ _
  | .decimal _, b => by
    cases b <;> first | rfl | exact some_swap Decimal.compare _ _
  | .text _, b => by
    cases b <;> first | rfl | exact some_swap (Ord.compare : String → String → Ordering) _ _
  | .timestamp _, b => by
    cases b <;> first | rfl | exact some_swap Timestamp.compare _ _
  | .dateTime _, b => by
    cases b <;> first | rfl | exact some_swap DateTime.compare _ _
  | .date _, b => by
    cases b <;> first | rfl | exact some_swap Date.compare _ _
  | .list as, b => by
    cases b <;> first | rfl | exact compareAll_swap as _
  | .labeled l x, b => by
    cases b with
    | labeled m y =>
      rw [compare_labeled, compare_labeled, breakTie_swap, ← some_swap Ord.compare,
        ← compare_swap x y]
    | _ => rfl
  | .record _, b => by cases b <;> rfl

theorem compareAll_swap : ∀ as bs : List Value,
    compareAll as bs = (compareAll bs as).map Ordering.swap
  | [], [] => rfl
  | [], _ :: _ => rfl
  | _ :: _, [] => rfl
  | a :: as, b :: bs => by
    rw [compareAll_cons, compareAll_cons, breakTie_swap, ← compare_swap a b,
      ← compareAll_swap as bs]

end

/-! ### Values that are alike -/

/-- The number that a value is. -/
def number? : Value → Option Decimal
  | .int value => some (.ofInt64 value)
  | .decimal value => some value
  | _ => none

/-- Two values whose comparison meets no two kinds of value, and no two numbers that cannot be
brought to one scale. -/
inductive Alike : Value → Value → Prop
  | null : Alike .null .null
  | bool (a b : Bool) : Alike (.bool a) (.bool b)
  | number {a b : Value} {x y : Decimal} : a.number? = some x → b.number? = some y →
      x.alignable y = true → Alike a b
  | text (a b : String) : Alike (.text a) (.text b)
  | timestamp (a b : Timestamp) : Alike (.timestamp a) (.timestamp b)
  | dateTime (a b : DateTime) : Alike (.dateTime a) (.dateTime b)
  | date (a b : Date) : Alike (.date a) (.date b)
  | nilLeft (bs : List Value) : Alike (.list []) (.list bs)
  | nilRight (as : List Value) : Alike (.list as) (.list [])
  | cons {a b : Value} {as bs : List Value} : Alike a b →
      (a.compare b = some .eq → Alike (.list as) (.list bs)) →
      Alike (.list (a :: as)) (.list (b :: bs))
  | labeled {l m : String} {x y : Value} : (l = m → Alike x y) →
      Alike (.labeled l x) (.labeled m y)
  | record (a b : List (String × Value)) : Alike (.record a) (.record b)

/-- Numbers of one scale can be brought to it. -/
theorem compare_of_number {a b : Value} {x y : Decimal} (left : a.number? = some x)
    (right : b.number? = some y) (aligned : x.alignable y = true) :
    a.compare b = some (x.compare y) := by
  cases a <;> cases left <;> cases b <;> cases right
  · rename_i a b
    rw [compare, Decimal.compare_of_alignable aligned (Nat.le_refl 0) (Nat.le_refl 0)]
    show _ = some (Ord.compare (a.toInt * 1) (b.toInt * 1))
    rw [Int.mul_one, Int.mul_one]
  · rfl
  · rfl
  · rfl

/-- What is like a number is one. -/
theorem Alike.number_of_left {a b : Value} {x : Decimal} (alike : Alike a b)
    (left : a.number? = some x) : ∃ y, b.number? = some y ∧ x.alignable y = true := by
  cases alike with
  | number here right aligned =>
    cases here.symm.trans left
    exact ⟨_, right, aligned⟩
  | _ => cases left

theorem Alike.list_of_left {as : List Value} {b : Value} (alike : Alike (.list as) b) :
    ∃ bs, b = .list bs := by
  cases alike with
  | nilLeft bs => exact ⟨bs, rfl⟩
  | nilRight => exact ⟨[], rfl⟩
  | cons => exact ⟨_, rfl⟩
  | number left => cases left

/-- An empty list comes before all others. -/
theorem compareAll_chained_of_nil {as bs cs : List Value} (empty : as = [] ∨ bs = [] ∨ cs = []) :
    Chained (compareAll as bs) (compareAll bs cs) (compareAll as cs) := by
  refine .of_key compareAll (fun values => (!values.isEmpty).toNat) (fun as bs apart => ?_)
    fun tie tie' => ?_
  · cases as <;> cases bs <;> first | rfl | exact absurd rfl apart
  · have none : as = [] ∧ bs = [] ∧ cs = [] := by
      cases as <;> cases bs <;> cases cs <;> simp_all
    obtain ⟨rfl, rfl, rfl⟩ := none
    exact .of_cmp (Ord.compare : Nat → Nat → Ordering) 0 0 0

/-- **The orders of three values agree where each two of them are alike.** -/
theorem compare_chained {a b c : Value} (ab : Alike a b) (bc : Alike b c) (ac : Alike a c) :
    Chained (a.compare b) (b.compare c) (a.compare c) := by
  induction ab generalizing c with
  | null =>
    cases bc with
    | null => exact .of_cmp (Ord.compare : Nat → Nat → Ordering) 0 0 0
    | number left => cases left
  | bool a b =>
    cases bc with
    | bool _ c => exact .of_cmp (Ord.compare : Nat → Nat → Ordering) a.toNat b.toNat c.toNat
    | number left => cases left
  | number left middle alignedLeft =>
    obtain ⟨z, right, alignedRight⟩ := bc.number_of_left middle
    obtain ⟨z', right', aligned⟩ := ac.number_of_left left
    cases right.symm.trans right'
    rw [compare_of_number left middle alignedLeft, compare_of_number middle right alignedRight,
      compare_of_number left right aligned]
    exact Decimal.compare_chained alignedLeft alignedRight aligned
  | text a b =>
    cases bc with
    | text _ c => exact .of_cmp (Ord.compare : String → String → Ordering) a b c
    | number left => cases left
  | timestamp a b =>
    cases bc with
    | timestamp _ c => exact .of_cmp Timestamp.compare a b c
    | number left => cases left
  | dateTime a b =>
    cases bc with
    | dateTime _ c => exact .of_cmp DateTime.compare a b c
    | number left => cases left
  | date a b =>
    cases bc with
    | date _ c => exact .of_cmp Date.compare a b c
    | number left => cases left
  | nilLeft bs =>
    obtain ⟨cs, rfl⟩ := bc.list_of_left
    exact compareAll_chained_of_nil (.inl rfl)
  | nilRight as =>
    obtain ⟨cs, rfl⟩ := bc.list_of_left
    exact compareAll_chained_of_nil (.inr (.inl rfl))
  | cons head tail ihHead ihTail =>
    cases bc with
    | nilRight => exact compareAll_chained_of_nil (.inr (.inr rfl))
    | cons head' tail' =>
      cases ac with
      | cons head'' tail'' =>
        have heads := ihHead head' head''
        simp only [compare, compareAll_cons] at ihTail ⊢
        refine heads.breakTie fun tie tie' => ihTail tie (tail' tie') (tail'' ?_)
        rw [heads.left (by rw [tie]; rfl), tie']
      | number left => cases left
    | number left => cases left
  | labeled same ih =>
    cases bc with
    | labeled same' =>
      cases ac with
      | labeled same'' =>
        rw [compare_labeled, compare_labeled, compare_labeled]
        refine (Chained.of_cmp (Ord.compare : String → String → Ordering) _ _ _).breakTie
          fun tie tie' => ?_
        have first := Std.LawfulEqCmp.eq_of_compare (Option.some.inj tie)
        have second := Std.LawfulEqCmp.eq_of_compare (Option.some.inj tie')
        exact ih first (same' second) (same'' (first.trans second))
      | number left => cases left
    | number left => cases left
  | record a b =>
    cases bc with
    | record _ c => exact .undecided
    | number left => cases left

/-! ### The order of any two values -/

/-- Two values whose kinds have different places, or that are alike. -/
def Settled (a b : Value) : Prop :=
  a.rank ≠ b.rank ∨ Alike a b

/-- Only values of one place are comparable. -/
theorem rank_of_compare {a b : Value} (comparable : a.compare b ≠ none) : a.rank = b.rank := by
  cases a <;> cases b <;> first | rfl | exact absurd rfl comparable

/-- The place of the kinds decides where it can. -/
theorem sortCompare_of_rank_ne {a b : Value} (apart : a.rank ≠ b.rank) :
    a.sortCompare b = Ord.compare a.rank b.rank := by
  have left : a.compare b = none := by
    by_contra comparable
    exact apart (rank_of_compare comparable)
  rw [sortCompare, left, Option.getD_none]

/-- Among values of one place, what is left open is a tie. -/
theorem sortCompare_of_rank_eq {a b : Value} (same : a.rank = b.rank) :
    a.sortCompare b = (a.compare b).getD .eq := by
  rw [sortCompare, same, Nat.compare_eq_eq.mpr rfl]

/-- **Values that are compared the other way round have the opposite order.** -/
theorem sortCompare_swap (a b : Value) : a.sortCompare b = (b.sortCompare a).swap := by
  rw [sortCompare, sortCompare, compare_swap a b]
  rcases b.compare a with _ | _
  · exact (Std.OrientedCmp.eq_swap : Ord.compare a.rank b.rank = _)
  · rfl

/-- **Among settled values the order is a total preorder.** -/
theorem sortCompare_chained {a b c : Value} (ab : Settled a b) (bc : Settled b c)
    (ac : Settled a c) :
    Chained (some (a.sortCompare b)) (some (b.sortCompare c)) (some (a.sortCompare c)) := by
  refine .of_key (fun a b => some (a.sortCompare b)) rank
    (fun a b apart => congrArg some (sortCompare_of_rank_ne apart)) fun first second => ?_
  rw [sortCompare_of_rank_eq first, sortCompare_of_rank_eq second,
    sortCompare_of_rank_eq (first.trans second)]
  exact (compare_chained (ab.resolve_left (absurd first)) (bc.resolve_left (absurd second))
    (ac.resolve_left (absurd (first.trans second)))).settle

end Value

end Sift
