/-
**Where a separator is met.**

Three underscores in a row hold two separators, and a scan meets the one that comes first. Behind a
part that ends with an underscore a scan from the left therefore cuts one place too early, and in
front of a tail that starts with one a scan from the right cuts one place too late.

* `Separable` — parts that are joined where a scan from the left cuts them.
* `pieces_join_iff` — joined parts are the pieces of their text exactly if they are separable.
* `splitLast_append` — a scan from the right cuts in front of a tail that holds no separator, not
  even together with the underscore before it.
-/

import Mathlib.Data.List.Infix
import Sift.Text.Separator

namespace Sift.Text

/-- Whether no separator stands anywhere in a text. -/
def Unseparated (text : List Char) : Prop :=
  ¬ separator.toList <:+: text

theorem unseparated_nil : Unseparated [] := by
  rintro ⟨before, after, same⟩
  simp [separator] at same

/-- A character in front makes a separator only as the first of two underscores. -/
theorem unseparated_cons_iff {c : Char} {text : List Char} :
    Unseparated (c :: text) ↔ ¬ (c = '_' ∧ text.head? = some '_') ∧ Unseparated text := by
  have first : separator.toList <+: c :: text ↔ c = '_' ∧ text.head? = some '_' := by
    show ['_', '_'] <+: c :: text ↔ _
    cases text <;> simp [eq_comm]
  rw [Unseparated, List.infix_cons_iff, not_or, first, Unseparated]

/-- A text without underscores holds no separator, even behind an underscore. -/
theorem unseparated_of_not_mem {text : List Char} (none : '_' ∉ text) :
    Unseparated ('_' :: text) := by
  refine unseparated_cons_iff.mpr ⟨?_, fun inside => none (inside.subset (by decide))⟩
  rintro ⟨-, start⟩
  exact none (List.mem_of_mem_head? start)

/-- An underscore behind a text makes a separator only as the second of two. -/
theorem unseparated_concat_iff {text : List Char} :
    Unseparated (text ++ ['_']) ↔ Unseparated text ∧ text.getLast? ≠ some '_' := by
  have last : separator.toList <:+ text ++ ['_'] ↔ text.getLast? = some '_' := by
    show ['_'] ++ ['_'] <:+ text ++ ['_'] ↔ _
    rw [List.suffix_append_inj_of_length_eq rfl, and_iff_left rfl, List.getLast?_eq_some_iff]
    exact exists_congr fun before => eq_comm
  rw [Unseparated, List.infix_concat_iff, not_or, last, Unseparated, and_comm]

/-! ### From the left -/

/-- Whether parts are joined where a scan from the left cuts them. -/
def Separable : List (List Char) → Prop
  | [] => False
  | [part] => Unseparated part
  | part :: parts => Unseparated (part ++ ['_']) ∧ Separable parts

/-- A character that starts no separator belongs to the first piece. -/
theorem pieces_cons {c : Char} {text : List Char} (apart : ¬ (c = '_' ∧ text.head? = some '_')) :
    pieces (c :: text) = (pieces text).modifyHead (c :: ·) := by
  rw [pieces.eq_3 c text fun rest under same => apart ⟨under, by rw [same]; rfl⟩]
  cases parts : pieces text with
  | nil => exact absurd parts (pieces_ne_nil text)
  | cons part parts => rfl

theorem pieces_of_unseparated {text : List Char} (free : Unseparated text) :
    pieces text = [text] := by
  induction text with
  | nil => rfl
  | cons c text ih =>
    obtain ⟨apart, free⟩ := unseparated_cons_iff.mp free
    rw [pieces_cons apart, ih free, List.modifyHead_cons]

/-- A part ends where the next separator starts. -/
theorem pieces_append {part : List Char} (free : Unseparated (part ++ ['_'])) (rest : List Char) :
    pieces (part ++ '_' :: '_' :: rest) = part :: pieces rest := by
  induction part with
  | nil => rfl
  | cons c part ih =>
    obtain ⟨apart, free⟩ := unseparated_cons_iff.mp free
    have apart' : ¬ (c = '_' ∧ (part ++ '_' :: '_' :: rest).head? = some '_') := by
      simpa [List.head?_append] using apart
    rw [List.cons_append, pieces_cons apart', ih free, List.modifyHead_cons]

/-- A list of separable parts starts with a part and goes on with separable parts, if it goes on. -/
theorem separable_cons_iff {part : List Char} {parts : List (List Char)} (more : parts ≠ []) :
    Separable (part :: parts) ↔ Unseparated (part ++ ['_']) ∧ Separable parts := by
  cases parts with
  | nil => exact absurd rfl more
  | cons next parts => rfl

theorem join_cons {part : List Char} {parts : List (List Char)} (more : parts ≠ []) :
    join (part :: parts) = part ++ '_' :: '_' :: join parts := by
  cases parts with
  | nil => exact absurd rfl more
  | cons next parts => rfl

/-- The pieces of a text are separable. -/
theorem separable_pieces (text : List Char) : Separable (pieces text) := by
  fun_induction pieces text with
  | case1 => exact unseparated_nil
  | case2 rest ih =>
    refine (separable_cons_iff (pieces_ne_nil rest)).mpr ⟨?_, ih⟩
    simp [unseparated_cons_iff, unseparated_nil]
  | case3 c rest _ none => exact absurd none (pieces_ne_nil rest)
  | case4 c rest apart part parts found ih =>
    have apart : ¬ (c = '_' ∧ rest.head? = some '_') := by
      rintro ⟨under, start⟩
      obtain ⟨rest', same⟩ := List.head?_eq_some_iff.mp start
      exact apart rest' under same
    have joined := join_pieces rest
    rw [found] at ih joined
    rcases eq_or_ne parts [] with rfl | more
    · -- The last piece is all that is left of the text.
      obtain rfl : part = rest := joined
      exact unseparated_cons_iff.mpr ⟨apart, ih⟩
    · rw [separable_cons_iff more] at ih ⊢
      rw [join_cons more] at joined
      refine ⟨unseparated_cons_iff.mpr ⟨?_, ih.1⟩, ih.2⟩
      simpa [← joined, List.head?_append] using apart

theorem pieces_join {parts : List (List Char)} (separable : Separable parts) :
    pieces (join parts) = parts := by
  induction parts with
  | nil => exact separable.elim
  | cons part parts ih =>
    rcases eq_or_ne parts [] with rfl | more
    · exact pieces_of_unseparated separable
    · obtain ⟨free, later⟩ := (separable_cons_iff more).mp separable
      rw [join_cons more, pieces_append free, ih later]

/-- **Joined parts are the pieces of their text exactly if they are separable.** -/
theorem pieces_join_iff {parts : List (List Char)} :
    pieces (join parts) = parts ↔ Separable parts :=
  ⟨fun back => back ▸ separable_pieces _, pieces_join⟩

/-- Parts are separable if no separator stands in any of them and none but the last ends with an
underscore. -/
theorem separable_iff {parts : List (List Char)} :
    Separable parts ↔ parts ≠ [] ∧ (∀ part ∈ parts, Unseparated part) ∧
      ∀ part ∈ parts.dropLast, part.getLast? ≠ some '_' := by
  induction parts with
  | nil => simp [Separable]
  | cons part parts ih =>
    rcases eq_or_ne parts [] with rfl | more
    · simp [Separable]
    · rw [separable_cons_iff more, unseparated_concat_iff, ih, List.dropLast_cons_of_ne_nil more]
      simp only [ne_eq, more, List.forall_mem_cons, reduceCtorEq, not_false_eq_true, true_and]
      tauto

/-! ### From the right -/

theorem splitLast_of_unseparated {text : List Char} (free : Unseparated text) :
    splitLast text = none := by
  fun_induction splitLast text with
  | case1 => rfl
  | case2 c rest head tail found ih =>
    cases found.symm.trans (ih (unseparated_cons_iff.mp free).2)
  | case3 tail => exact absurd ⟨rfl, rfl⟩ (unseparated_cons_iff.mp free).1
  | case4 => rfl

/-- A text is cut in front of a tail that holds no separator, not even with the underscore before
it. -/
theorem splitLast_append {tail : List Char} (free : Unseparated ('_' :: tail)) (head : List Char) :
    splitLast (head ++ '_' :: '_' :: tail) = some (head, tail) := by
  induction head with
  | nil => rw [List.nil_append, splitLast, splitLast_of_unseparated free]
  | cons c head ih =>
    rw [List.cons_append]
    unfold splitLast
    rw [ih]

end Sift.Text
