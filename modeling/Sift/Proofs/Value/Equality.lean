/-
**What equal values have in common.**

Decimals are equal as numbers and timestamps as instants, so that two values can be equal without
being the same. A comparison with a third value does not tell them apart as long as all numbers that
meet in it can be brought to one scale. Where numbers are compared as floats it may: equality is not
transitive there.

* `Value.AlignedWith` — two values whose numbers can be brought to one scale with each other.
* `Value.compare_congr` — equal values compare alike with a value that their numbers are aligned with.
* `Value.text?_congr`, `Comparison.holdsAt_congr`, `Restriction.containsAt_congr`,
  `Restriction.isStored_congr` — what is stored under a path passes a test if what is equal to it
  does.
-/

import Sift.Proofs.Checks
import Sift.Proofs.Value.Order
import Sift.Restriction.Matching

namespace Sift

/-- Equal decimals compare alike with a third one, if all of them are alignable. -/
theorem Decimal.compare_congr {x y z : Decimal} (same : (x == y) = true)
    (xy : x.alignable y = true) (xz : x.alignable z = true) (yz : y.alignable z = true) :
    x.compare z = y.compare z := by
  have tie : x.compare y = .eq := beq_iff_eq.mp same
  have tied : (some (x.compare y)).getD .eq = .eq := tie
  exact Option.some.inj ((compare_chained xy yz xz).left tied)

namespace Value

/-! ### Numbers -/

mutual

/-- The numbers in a value, as decimals. No comparison looks into a record. -/
def numbers : Value → List Decimal
  | .int value => [.ofInt64 value]
  | .decimal value => [value]
  | .list values => numbersAll values
  | .labeled _ value => numbers value
  | _ => []

def numbersAll : List Value → List Decimal
  | [] => []
  | value :: rest => numbers value ++ numbersAll rest

end

/-- **Two values whose numbers can be brought to one scale** with each other. -/
def AlignedWith (a b : Value) : Prop :=
  ∀ x ∈ a.numbers, ∀ y ∈ b.numbers, x.alignable y = true

section Lists

variable {a b c : Value} {as bs : List Value}

theorem AlignedWith.of_cons_left (aligned : AlignedWith (.list (a :: as)) c) :
    a.AlignedWith c ∧ AlignedWith (.list as) c :=
  ⟨fun x member => aligned x (List.mem_append_left _ member),
    fun x member => aligned x (List.mem_append_right _ member)⟩

theorem AlignedWith.of_cons_right (aligned : AlignedWith c (.list (b :: bs))) :
    c.AlignedWith b ∧ AlignedWith c (.list bs) :=
  ⟨fun x member y other => aligned x member y (List.mem_append_left _ other),
    fun x member y other => aligned x member y (List.mem_append_right _ other)⟩

theorem AlignedWith.of_cons (aligned : AlignedWith (.list (a :: as)) (.list (b :: bs))) :
    a.AlignedWith b ∧ AlignedWith (.list as) (.list bs) :=
  ⟨aligned.of_cons_left.1.of_cons_right.1, aligned.of_cons_left.2.of_cons_right.2⟩

end Lists

/-! ### Comparisons -/

/-- Whether a value is a scalar that is equal to nothing but itself: neither a decimal nor a
timestamp. -/
def IsRigid : Value → Prop
  | .null | .bool _ | .int _ | .text _ | .dateTime _ | .date _ => True
  | _ => False

theorem eq_of_equal {a b : Value} (rigid : a.IsRigid) (same : a.equal b = true) : a = b := by
  cases a <;> cases b <;> first
    | rfl
    | exact rigid.elim
    | exact absurd same Bool.false_ne_true
    | exact congrArg _ (eq_of_beq same)

mutual

/-- **Equal values compare alike** with a value, if their numbers are aligned with each other and with
its numbers. -/
theorem compare_congr : ∀ {a b : Value} (c : Value), a.equal b = true → a.AlignedWith b →
    a.AlignedWith c → b.AlignedWith c → a.compare c = b.compare c
  | .null, _, c, same, _, _, _ => congrArg (compare · c) (eq_of_equal trivial same)
  | .bool _, _, c, same, _, _, _ => congrArg (compare · c) (eq_of_equal trivial same)
  | .int _, _, c, same, _, _, _ => congrArg (compare · c) (eq_of_equal trivial same)
  | .text _, _, c, same, _, _, _ => congrArg (compare · c) (eq_of_equal trivial same)
  | .dateTime _, _, c, same, _, _, _ => congrArg (compare · c) (eq_of_equal trivial same)
  | .date _, _, c, same, _, _, _ => congrArg (compare · c) (eq_of_equal trivial same)
  | .decimal x, b, c, same, ab, ac, bc => by
    cases b with
    | decimal y =>
      have alike (z : Decimal) (known : z ∈ c.numbers) : x.compare z = y.compare z :=
        Decimal.compare_congr same (ab x (.head _) y (.head _)) (ac x (.head _) z known)
          (bc y (.head _) z known)
      cases c with
      | int n => exact congrArg some (alike _ (.head _))
      | decimal z => exact congrArg some (alike z (.head _))
      | _ => rfl
    | _ => cases same
  | .timestamp a, b, c, same, _, _, _ => by
    cases b with
    | timestamp b =>
      have utc : a.utc = b.utc := eq_of_beq same
      cases c with
      | timestamp c => exact congrArg (fun utc => some (DateTime.compare utc c.utc)) utc
      | _ => rfl
    | _ => cases same
  | .list as, b, c, same, ab, ac, bc => by
    cases b with
    | list bs =>
      cases c with
      | list cs => exact compareAll_congr same ab ac bc
      | _ => rfl
    | _ => cases same
  | .labeled l x, b, c, same, ab, ac, bc => by
    cases b with
    | labeled m y =>
      obtain ⟨label, value⟩ := Bool.and_eq_true_iff.mp same
      cases eq_of_beq label
      cases c with
      | labeled n z => rw [compare_labeled, compare_labeled, compare_congr z value ab ac bc]
      | _ => rfl
    | _ => cases same
  | .record _, b, c, same, _, _, _ => by
    cases b with
    | record => cases c <;> rfl
    | _ => cases same

theorem compareAll_congr : ∀ {as bs cs : List Value}, equalAll as bs = true →
    AlignedWith (.list as) (.list bs) → AlignedWith (.list as) (.list cs) →
    AlignedWith (.list bs) (.list cs) → compareAll as cs = compareAll bs cs
  | [], [], _, _, _, _, _ => rfl
  | _ :: _, _ :: _, [], _, _, _, _ => rfl
  | a :: as, b :: bs, c :: cs, same, ab, ac, bc => by
    obtain ⟨first, rest⟩ := Bool.and_eq_true_iff.mp same
    rw [compareAll_cons, compareAll_cons,
      compare_congr c first ab.of_cons.1 ac.of_cons.1 bc.of_cons.1,
      compareAll_congr rest ab.of_cons.2 ac.of_cons.2 bc.of_cons.2]

end

/-! ### Kinds and elements -/

theorem isList_congr {a b : Value} (same : a.equal b = true) : a.isList = b.isList := by
  cases a <;> cases b <;> first | rfl | exact absurd same Bool.false_ne_true

/-- A text is equal to nothing but itself. -/
theorem text?_congr {a b : Value} (same : a.equal b = true) : a.text? = b.text? := by
  cases a with
  | text chars =>
    have rigid : (Value.text chars).IsRigid := trivial
    rw [eq_of_equal rigid same]
  | _ => cases b <;> first | rfl | exact absurd same Bool.false_ne_true

/-- A list is equal to lists only, with equal elements. -/
theorem exists_lists_of_equal {a b : Value} (list : a.isList = true) (same : a.equal b = true) :
    ∃ as bs, a = .list as ∧ b = .list bs ∧ equalAll as bs = true := by
  cases a with
  | list as =>
    cases b with
    | list bs => exact ⟨as, bs, rfl, rfl, same⟩
    | _ => cases same
  | _ => cases list

theorem isNull_congr {a b : Value} (same : a.equal b = true) : a.isNull = b.isNull := by
  cases a <;> cases b <;> first | rfl | exact absurd same Bool.false_ne_true

/-- Equal lists have equal elements. -/
theorem forall₂_of_equalAll : ∀ {as bs : List Value}, equalAll as bs = true →
    List.Forall₂ (fun a b => a.equal b = true) as bs
  | [], [], _ => .nil
  | _ :: _, _ :: _, same =>
    .cons (Bool.and_eq_true_iff.mp same).1 (forall₂_of_equalAll (Bool.and_eq_true_iff.mp same).2)

/-- The elements of equal lists compare alike. -/
theorem forall₂_compare {as bs : List Value} {c : Value} (same : equalAll as bs = true)
    (ab : AlignedWith (.list as) (.list bs)) (ac : AlignedWith (.list as) c)
    (bc : AlignedWith (.list bs) c) :
    List.Forall₂ (fun a b => compare a c = compare b c) as bs := by
  induction forall₂_of_equalAll same with
  | nil => exact .nil
  | cons first _ ih =>
    have alike := compare_congr c first ab.of_cons.1 ac.of_cons_left.1 bc.of_cons_left.1
    exact .cons alike (ih (Bool.and_eq_true_iff.mp same).2 ab.of_cons.2 ac.of_cons_left.2
      bc.of_cons_left.2)

end Value

/-! ### What is stored under a path -/

/-- Two results that are equal: nothing is stored for both, or lists with equal elements, or other
values that are equal. -/
inductive Value.EqualStored : Option Value → Option Value → Prop
  | none : EqualStored none none
  | list {as bs : List Value} : equalAll as bs = true →
    EqualStored (some (.list as)) (some (.list bs))
  | scalar {a b : Value} : a.isList = false → b.isList = false → a.equal b = true →
    EqualStored (some a) (some b)

theorem Value.equalStored_of_beq {stored other : Option Value} (same : (stored == other) = true) :
    EqualStored stored other := by
  match stored, other with
  | none, none => exact .none
  | some a, some b =>
    by_cases list : a.isList = true
    · obtain ⟨as, bs, rfl, rfl, elements⟩ := exists_lists_of_equal list same
      exact .list elements
    · have list : a.isList = false := eq_false_of_ne_true list
      exact .scalar list (isList_congr same ▸ list) same

section Scalar

variable {value : Value} (scalar : value.isList = false)

include scalar

/-- A single value is tested as it is. -/
theorem Comparison.holdsAt_scalar {comparison : Comparison} {literal : Value} :
    comparison.holdsAt literal (some value) = comparison.accepts (value.compare literal) := by
  cases value <;> first | rfl | cases scalar

theorem Restriction.containsAt_scalar {mode : ContainmentMode} {casing : Casing}
    {needle : String} :
    containsAt mode casing needle (some value) = textAgrees mode casing needle value := by
  cases value <;> first | rfl | cases scalar

theorem Restriction.isStored_scalar : isStored (some value) = !value.isNull := by
  cases value <;> first | rfl | cases scalar

end Scalar

section Stored

variable {stored other : Option Value} (same : (stored == other) = true)

include same

/-- **Comparisons hold alike of equal values**, if no numbers meet that cannot be brought to one
scale. -/
theorem Comparison.holdsAt_congr (comparison : Comparison) {literal : Value}
    (aligned : ∀ a ∈ stored, ∀ b ∈ other,
      a.AlignedWith b ∧ a.AlignedWith literal ∧ b.AlignedWith literal) :
    comparison.holdsAt literal stored = comparison.holdsAt literal other := by
  cases Value.equalStored_of_beq same with
  | none => rfl
  | @list as bs elements =>
    obtain ⟨ab, ac, bc⟩ := aligned _ rfl _ rfl
    have any (comparison : Comparison) :
        as.any (comparison.holds literal) = bs.any (comparison.holds literal) :=
      any_eq_any_of_forall₂ (Value.forall₂_compare elements ab ac bc) fun _ _ _ alike =>
        congrArg comparison.accepts alike
    cases comparison with
    | notEqual => exact congrArg Bool.not (any .equal)
    | _ => exact any _
  | scalar left right same =>
    obtain ⟨ab, ac, bc⟩ := aligned _ rfl _ rfl
    rw [holdsAt_scalar left, holdsAt_scalar right, Value.compare_congr literal same ab ac bc]

namespace Restriction

/-- Containment is alike of equal values, whatever their numbers are. -/
theorem containsAt_congr (mode : ContainmentMode) (casing : Casing) (needle : String) :
    containsAt mode casing needle stored = containsAt mode casing needle other := by
  have agree {a b : Value} (same : a.equal b = true) :
      textAgrees mode casing needle a = textAgrees mode casing needle b := by
    rw [textAgrees, textAgrees, Value.text?_congr same]
  cases Value.equalStored_of_beq same with
  | none => rfl
  | list elements =>
    exact any_eq_any_of_forall₂ (Value.forall₂_of_equalAll elements) fun _ _ _ => agree
  | scalar left right same => rw [containsAt_scalar left, containsAt_scalar right, agree same]

/-- And either nothing is stored or something equal. -/
theorem isStored_congr : isStored stored = isStored other := by
  cases Value.equalStored_of_beq same with
  | none => rfl
  | list elements => cases Value.forall₂_of_equalAll elements <;> rfl
  | scalar left right same =>
    rw [isStored_scalar left, isStored_scalar right, Value.isNull_congr same]

end Restriction

end Stored

end Sift
