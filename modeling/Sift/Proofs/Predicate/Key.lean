/-
**Lookups are read back from their keys.**

The key of a lookup is its field with the suffix of its operator, and a key is split at the
rightmost separator. No suffix holds an underscore, so that the separator in front of it is the
rightmost one, whatever the field is. Only equality has no suffix: its key is the field, which may
end in a suffix by itself.

* `Suffix.ofText?_eq_some_iff` — the texts that stand for suffixes.
* `splitKey_of_endsIn`, `splitKey_self_iff` — how keys are split.
* `Predicate.ofKey_eq_leaf_iff` — the keys and values that stand for a lookup.
* `Lookup.key_exact` — lookups are read back from their keys, but for equality with a field that
  ends in a suffix.
-/

import Sift.Predicate.Basic
import Sift.Proofs.Text.Separator

namespace Sift

namespace Suffix

/-- What stands at the end of a lookup key. -/
def text : Suffix → String
  | .operator op => op.suffix
  | .range => "range"

theorem ofText?_text {suffix : Suffix} (written : suffix ≠ .operator .equal) :
    ofText? suffix.text = some suffix := by
  cases suffix with
  | range => exact if_pos rfl
  | operator op => cases op <;> first | exact absurd rfl written | decide +kernel

/-- A text stands for the suffix that it is the text of. -/
theorem ofText?_eq_some_iff {chars : String} {suffix : Suffix} :
    ofText? chars = some suffix ↔ suffix ≠ .operator .equal ∧ suffix.text = chars := by
  constructor
  · intro read
    rw [ofText?] at read
    split at read
    case isTrue range =>
      cases read
      exact ⟨by simp, range.symm⟩
    case isFalse =>
      obtain ⟨op, found, rfl⟩ := Option.map_eq_some_iff.mp read
      have member := List.mem_of_find?_eq_some found
      have same := List.find?_some found
      refine ⟨?_, of_decide_eq_true same⟩
      intro equal
      cases equal
      exact absurd member (by decide)
  · rintro ⟨written, rfl⟩
    exact ofText?_text written

theorem not_mem_text (suffix : Suffix) : '_' ∉ suffix.text.toList := by
  cases suffix with
  | range => decide +kernel
  | operator op => cases op <;> decide +kernel

end Suffix

/-- Whether a key ends in a suffix, behind a separator. This is the last separator of the key, as a
suffix holds no underscore. -/
def EndsIn (key head : String) (suffix : Suffix) : Prop :=
  suffix ≠ .operator .equal ∧ key = head ++ Text.separator ++ suffix.text

/-- **A key that ends in a suffix is split in front of it**, whatever stands there. -/
theorem splitKey_of_endsIn {key head : String} {suffix : Suffix} (ends : EndsIn key head suffix) :
    splitKey key = (head, suffix) := by
  obtain ⟨written, rfl⟩ := ends
  have chars : (head ++ Text.separator ++ suffix.text).toList
      = head.toList ++ '_' :: '_' :: suffix.text.toList := by
    simp [Text.separator, String.toList_append]
  have split := Text.splitLast_append (Text.unseparated_of_not_mem suffix.not_mem_text) head.toList
  rw [splitKey, chars, split]
  simp only [String.ofList_toList, Suffix.ofText?_text written]

/-- A key stands for a field by itself exactly if it ends in no suffix. -/
theorem splitKey_self_iff {key : String} :
    splitKey key = (key, .operator .equal) ↔ ∀ head suffix, ¬ EndsIn key head suffix := by
  constructor
  · intro split head suffix ends
    rw [splitKey_of_endsIn ends] at split
    exact ends.1 (congrArg Prod.snd split)
  · intro none
    rw [splitKey]
    split
    · rfl
    · rename_i head tail split
      cases read : Suffix.ofText? (String.ofList tail) with
      | none => rfl
      | some suffix =>
        obtain ⟨written, same⟩ := Suffix.ofText?_eq_some_iff.mp read
        refine absurd ⟨written, String.toList_inj.mp ?_⟩ (none (String.ofList head) suffix)
        rw [Text.eq_of_splitLast split, same]
        simp [Text.separator, String.toList_append]

namespace Lookup

variable (lookup : Lookup)

theorem endsIn_key (written : lookup.operator ≠ .equal) :
    EndsIn lookup.key lookup.field (.operator lookup.operator) :=
  ⟨by simpa using written, if_neg written⟩

/-- Only equality with a field that ends in a suffix has a key that is not split into the field and
the operator. -/
theorem splitKey_key_iff :
    splitKey lookup.key = (lookup.field, .operator lookup.operator) ↔
      (lookup.operator = .equal → ∀ head suffix, ¬ EndsIn lookup.field head suffix) := by
  by_cases equal : lookup.operator = .equal
  · rw [key, if_pos equal, equal, splitKey_self_iff, forall_prop_of_true rfl]
  · exact iff_of_true (splitKey_of_endsIn (lookup.endsIn_key equal)) fun same => absurd same equal

end Lookup

namespace Predicate

/-- A key and a value stand for a lookup if the key is split into its field and its operator, and
the value is its own: not none, and for the presence of a field the truth value that says so. -/
theorem ofKey_eq_leaf_iff {key : String} {value : Value} {lookup : Lookup} :
    ofKey key value = .ok (.leaf lookup) ↔
      splitKey key = (lookup.field, .operator lookup.operator) ∧ lookup.value = value ∧
        value.isNull = false ∧ (lookup.operator = .present → value = .bool true) := by
  obtain ⟨field', op', own⟩ := lookup
  unfold ofKey
  cases null : value.isNull with
  | true => simp
  | false =>
    simp only [Bool.false_eq_true, if_false, true_and]
    split
    -- A range stands for two lookups, or for nothing.
    case h_1 split => simp [split, allOf, groupOf]
    case h_2 split _ => simp [split]
    case h_3 field truth split =>
      cases truth with
      | true => simp [split, presence, compare, eq_comm, and_assoc]
      | false =>
        simp only [split, presence, negate, compare, Operator.inverse?, Bool.false_eq_true,
          if_false, Except.ok.injEq, reduceCtorEq, Value.bool.injEq, false_iff, not_and,
          Prod.mk.injEq]
        rintro ⟨-, same⟩ - present
        cases same
        exact present rfl
    case h_4 split apart =>
      simp only [split, reduceCtorEq, Prod.mk.injEq, false_iff, not_and]
      rintro ⟨-, same⟩ - present
      cases same
      exact apart true (present rfl)
    case h_5 field op other split _ =>
      simp only [split, compare, Except.ok.injEq, leaf.injEq, Lookup.mk.injEq, Prod.mk.injEq,
        Suffix.operator.injEq, and_assoc]
      refine and_congr_right fun _ => and_congr_right fun same => ?_
      rw [eq_comm]
      exact (and_iff_left fun present => absurd (same.trans present) other).symm

end Predicate

namespace Lookup

/-- **Lookups are read back from their keys.** The key of every operator but equality is split into
the field, whatever its characters are, and the operator. That of equality is too, unless the field
ends in a suffix; it is split there then. With its value, the key stands for the lookup itself
wherever it is split so, the value is not none and, for the presence of a field, is true. -/
theorem key_exact :
    (∀ lookup : Lookup, lookup.operator ≠ .equal →
      splitKey lookup.key = (lookup.field, .operator lookup.operator)) ∧
    (∀ lookup : Lookup, lookup.operator = .equal →
      ((∀ head suffix, ¬ EndsIn lookup.field head suffix) →
        splitKey lookup.key = (lookup.field, .operator .equal)) ∧
      ∀ head suffix, EndsIn lookup.field head suffix → splitKey lookup.key = (head, suffix)) ∧
    ∀ lookup : Lookup, Predicate.ofKey lookup.key lookup.value = .ok (.leaf lookup) ↔
      lookup.value.isNull = false ∧
        (lookup.operator = .present → lookup.value = .bool true) ∧
        (lookup.operator = .equal → ∀ head suffix, ¬ EndsIn lookup.field head suffix) := by
  refine ⟨fun lookup other => ?_, fun lookup equal => ?_, fun lookup => ?_⟩
  · exact splitKey_of_endsIn (lookup.endsIn_key other)
  · rw [key, if_pos equal]
    exact ⟨splitKey_self_iff.mpr, fun head suffix => splitKey_of_endsIn⟩
  · rw [Predicate.ofKey_eq_leaf_iff, splitKey_key_iff]
    tauto

/-- A field that ends with an underscore makes three of them in a row, and the last two of these are
the separator. Without an operator, the end of a field is a suffix or belongs to the field. -/
theorem key_exact_underscore :
    splitKey (⟨"size_", .atLeast, .int 5⟩ : Lookup).key = ("size_", .operator .atLeast) ∧
      splitKey (⟨"size__gte", .equal, .int 5⟩ : Lookup).key = ("size", .operator .atLeast) ∧
      splitKey (⟨"address__Home", .equal, .text "x"⟩ : Lookup).key
        = ("address__Home", .operator .equal) := by
  have plain : splitKey "address__Home" = ("address__Home", .operator .equal) := by decide +kernel
  refine ⟨key_exact.1 _ (by decide), ?_, ?_⟩
  · exact (key_exact.2.1 ⟨"size__gte", .equal, .int 5⟩ rfl).2 "size" (.operator .atLeast)
      ⟨by decide, by decide +kernel⟩
  · exact (key_exact.2.1 ⟨"address__Home", .equal, .text "x"⟩ rfl).1
      (splitKey_self_iff.mp plain)

end Lookup

end Sift
