/-
**Outcomes of three comparisons that agree.**

A comparison of two things comes out as an order, or is left open. `Chained` says of three things
what a total preorder says of all: how the first compares with the last follows from how each
compares with the one between. It is kept by what comparisons are made of, a tie that a second
comparison breaks among them, and that also where the preorder is one only on some of the things.

* `Chained.of_cmp` — the outcomes of a total preorder agree.
* `Chained.breakTie`, `Chained.andThen` — comparisons one after the other.
* `Chained.of_key` — a comparison that a key decides before anything else does.
* `Chained.settle` — what is left open may be taken for a tie.
* `Chained.isLE` — what is not after something is not after what that is not after.
-/

namespace Sift

/-- The outcomes of comparing a first thing with a second, the second with a third, and the first
with the third agree. Where one of the first two is a tie, or left open, the last is the other one,
and where the first two are the same the last is that too. -/
structure Chained (ab bc ac : Option Ordering) : Prop where
  same : ab = bc → ac = ab
  left : ab.getD .eq = .eq → ac = bc
  right : bc.getD .eq = .eq → ac = ab

/-- The outcome of a comparison with a second one that decides where it is a tie. -/
def breakTie (first second : Option Ordering) : Option Ordering :=
  match first with
  | some .eq => second
  | outcome => outcome

theorem breakTie_of_ne {outcome : Option Ordering} (decided : outcome ≠ some .eq)
    (second : Option Ordering) : breakTie outcome second = outcome := by
  rcases outcome with _ | _ | _ | _ <;> first | rfl | exact absurd rfl decided

theorem breakTie_swap (first second : Option Ordering) :
    (breakTie first second).map Ordering.swap
      = breakTie (first.map Ordering.swap) (second.map Ordering.swap) := by
  rcases first with _ | _ | _ | _ <;> rfl

namespace Chained

theorem undecided : Chained none none none :=
  ⟨fun _ => rfl, fun _ => rfl, fun _ => rfl⟩

/-- The outcomes of a total preorder agree. -/
theorem of_cmp {α : Type} (cmp : α → α → Ordering) [Std.TransCmp cmp] (a b c : α) :
    Chained (some (cmp a b)) (some (cmp b c)) (some (cmp a c)) := by
  refine ⟨fun same => ?_, fun tie => ?_, fun tie => ?_⟩
  · have same : cmp a b = cmp b c := Option.some.inj same
    cases ab : cmp a b with
    | lt => rw [Std.TransCmp.lt_trans ab (same ▸ ab)]
    | eq => rw [Std.TransCmp.congr_left ab, ← same, ab]
    | gt => rw [Std.TransCmp.gt_trans ab (same ▸ ab)]
  · rw [Std.TransCmp.congr_left tie]
  · rw [Std.TransCmp.congr_right tie]

/-- The last two are one outcome that is neither a tie nor left open. -/
theorem of_right (outcome : Option Ordering) (decided : outcome.getD .eq ≠ .eq)
    (ab : Option Ordering) : Chained ab outcome outcome :=
  ⟨Eq.symm, fun _ => rfl, fun tie => absurd tie decided⟩

/-- The first and the last are one outcome that is neither a tie nor left open. -/
theorem of_left (outcome : Option Ordering) (decided : outcome.getD .eq ≠ .eq)
    (bc : Option Ordering) : Chained outcome bc outcome :=
  ⟨fun _ => rfl, fun tie => absurd tie decided, fun _ => rfl⟩

/-- Outcomes agree if they do so at first, and also in what breaks ties. -/
theorem breakTie {ab bc ac ab' bc' ac' : Option Ordering} (first : Chained ab bc ac)
    (second : ab = some .eq → bc = some .eq → Chained ab' bc' ac') :
    Chained (breakTie ab ab') (breakTie bc bc') (breakTie ac ac') := by
  by_cases tieLeft : ab = some .eq
  · subst tieLeft
    obtain rfl : ac = bc := first.left rfl
    by_cases tieRight : ac = some .eq
    · subst tieRight
      exact second rfl rfl
    · rw [breakTie_of_ne tieRight, breakTie_of_ne tieRight]
      exact .of_right ac (fun tie => tieRight (first.right tie)) _
  · by_cases tieRight : bc = some .eq
    · subst tieRight
      obtain rfl : ac = ab := first.right rfl
      rw [breakTie_of_ne tieLeft, breakTie_of_ne tieLeft]
      exact .of_left ac (fun tie => tieLeft (first.left tie)) _
    · rw [breakTie_of_ne tieLeft, breakTie_of_ne tieRight]
      refine ⟨fun same => ?_, fun tie => ?_, fun tie => ?_⟩
      · rw [first.same same, breakTie_of_ne tieLeft]
      · rw [first.left tie, breakTie_of_ne tieRight]
      · rw [first.right tie, breakTie_of_ne tieLeft]

/-- Outcomes agree if a key decides them wherever it can, and where it cannot they do. -/
theorem of_key {α : Type} (cmp : α → α → Option Ordering) (key : α → Nat)
    (decides : ∀ a b, key a ≠ key b → cmp a b = some (Ord.compare (key a) (key b))) {a b c : α}
    (tied : key a = key b → key b = key c → Chained (cmp a b) (cmp b c) (cmp a c)) :
    Chained (cmp a b) (cmp b c) (cmp a c) := by
  have broken : ∀ a b,
      cmp a b = Sift.breakTie (some (Ord.compare (key a) (key b))) (cmp a b) := by
    intro a b
    by_cases tie : key a = key b
    · rw [Nat.compare_eq_eq.mpr tie]
      rfl
    · rw [decides a b tie, breakTie_of_ne]
      intro same
      exact tie (Nat.compare_eq_eq.mp (Option.some.inj same))
  rw [broken a b, broken b c, broken a c]
  refine (of_cmp (Ord.compare : Nat → Nat → Ordering) _ _ _).breakTie fun tie tie' => ?_
  exact tied (Nat.compare_eq_eq.mp (Option.some.inj tie))
    (Nat.compare_eq_eq.mp (Option.some.inj tie'))

/-- Outcomes that are never left open agree if they do so at first, and in what follows ties. -/
theorem andThen {ab bc ac ab' bc' ac' : Ordering} (first : Chained (some ab) (some bc) (some ac))
    (second : ab = .eq → bc = .eq → Chained (some ab') (some bc') (some ac')) :
    Chained (some (ab.then ab')) (some (bc.then bc')) (some (ac.then ac')) := by
  have broken : ∀ first second : Ordering,
      some (first.then second) = Sift.breakTie (some first) (some second) := by
    intro first second
    cases first <;> rfl
  rw [broken, broken, broken]
  exact first.breakTie fun tie tie' => second (Option.some.inj tie) (Option.some.inj tie')

/-- Outcomes agree when those left open are taken for ties. -/
theorem settle {ab bc ac : Option Ordering} (chained : Chained ab bc ac) :
    Chained (some (ab.getD .eq)) (some (bc.getD .eq)) (some (ac.getD .eq)) := by
  refine ⟨fun same => ?_, fun tie => ?_, fun tie => ?_⟩
  · by_cases tie : ab.getD .eq = .eq
    · rw [chained.left tie, same]
    · have decided : ∀ first second : Option Ordering, first.getD .eq = second.getD .eq →
          first.getD .eq ≠ .eq → first = second := by
        rintro (_ | _ | _ | _) (_ | _ | _ | _) same decided <;> simp_all
      rw [chained.same (decided ab bc (Option.some.inj same) tie)]
  · rw [chained.left tie]
  · rw [chained.right tie]

/-- What is turned around at all three places still agrees. -/
theorem swap {ab bc ac : Ordering} (chained : Chained (some ab) (some bc) (some ac)) :
    Chained (some ab.swap) (some bc.swap) (some ac.swap) := by
  obtain ⟨same, left, right⟩ := chained
  cases ab <;> cases bc <;> constructor <;> simp_all

theorem isLE {ab bc ac : Ordering} (chained : Chained (some ab) (some bc) (some ac))
    (first : ab.isLE = true) (second : bc.isLE = true) : ac.isLE = true := by
  by_cases tie : ab = .eq
  · rwa [Option.some.inj (chained.left tie)]
  · by_cases tie' : bc = .eq
    · rwa [Option.some.inj (chained.right tie')]
    · have same : ab = bc := by cases ab <;> cases bc <;> simp_all
      rwa [Option.some.inj (chained.same (congrArg some same))]

end Chained

end Sift
