/-
**Which paths their spelling stands for.**

A path is written as its parts with separators between them, and split where a scan from the left
meets the separators. What is split spells itself. The other way round, a path is split from its
spelling unless a part is empty, holds a separator or ends with an underscore in front of another
part, or unless a sub-field stands where the label should.

* `FieldPath.split?_eq_some_iff` — what a text is split into.
* `FieldPath.Spellable` — what the parts of a path are like that is split from its spelling.
* `FieldPath.spelling_exact` — the correspondence of paths and texts.
-/

import Sift.Path
import Sift.Proofs.Text.Separator

namespace Sift

namespace FieldPath

/-- Whether a sub-field comes only with a label. -/
def IsNested (path : FieldPath) : Prop :=
  path.subfield.isSome = true → path.label.isSome = true

/-- What a text is split into has the pieces of the text for its parts. -/
theorem split?_eq_some_iff {text : String} {path : FieldPath} :
    split? text = some path ↔
      Text.pieces text.toList = path.parts.map String.toList ∧
        (∀ part ∈ path.parts, part ≠ "") ∧ path.IsNested := by
  constructor
  · intro split
    have parts := parts_of_split? split
    simp only [split?] at split
    split at split
    case isTrue => cases split
    case isFalse full =>
      refine ⟨parts.symm, ?_, ?_⟩
      · rintro part member rfl
        refine full (List.any_eq_true.mpr ⟨[], ?_, rfl⟩)
        rw [← parts]
        exact List.mem_map_of_mem (f := String.toList) member
      · split at split <;> cases split <;> simp [IsNested]
  · rintro ⟨pieces, nonempty, nested⟩
    have full : (Text.pieces text.toList).any List.isEmpty = false := by
      rw [pieces, List.any_map, List.any_eq_false]
      rintro part member empty
      exact nonempty part member (String.toList_eq_nil_iff.mp (List.isEmpty_iff.mp empty))
    rw [split?, full, pieces]
    obtain ⟨field, label, subfield⟩ := path
    cases label with
    | none =>
      cases subfield with
      | none => simp [parts]
      | some subfield => cases nested rfl
    | some label => cases subfield <;> simp [parts]

/-- What the parts of a path are like that is split from its spelling. -/
structure Spellable (path : FieldPath) : Prop where
  nonempty : ∀ part ∈ path.parts, part ≠ ""
  nested : path.IsNested
  unseparated : ∀ part ∈ path.parts, Text.Unseparated part.toList
  /-- An underscore in front of a separator makes an earlier one. -/
  stopped : ∀ part ∈ path.parts.dropLast, part.toList.getLast? ≠ some '_'

theorem separable_parts_iff {path : FieldPath} :
    Text.Separable (path.parts.map String.toList) ↔
      (∀ part ∈ path.parts, Text.Unseparated part.toList) ∧
        ∀ part ∈ path.parts.dropLast, part.toList.getLast? ≠ some '_' := by
  have some : path.parts.map String.toList ≠ [] := by simp [parts]
  rw [Text.separable_iff, ← List.map_dropLast, List.forall_mem_map, List.forall_mem_map]
  exact and_iff_right some

/-- **Paths and texts correspond.** A path that is split from a text spells that text, and a path is
split from its own spelling exactly if it is spellable. -/
theorem spelling_exact :
    (∀ text path, split? text = some path → path.text = text) ∧
      ∀ path : FieldPath, split? path.text = some path ↔ path.Spellable := by
  refine ⟨fun text path split => text_of_split? split, fun path => ?_⟩
  rw [split?_eq_some_iff, toList_text, Text.pieces_join_iff, separable_parts_iff]
  constructor
  · rintro ⟨⟨unseparated, stopped⟩, nonempty, nested⟩
    exact ⟨nonempty, nested, unseparated, stopped⟩
  · rintro ⟨nonempty, nested, unseparated, stopped⟩
    exact ⟨⟨unseparated, stopped⟩, nonempty, nested⟩

/-- A leading underscore is no obstacle behind a separator, as it is in front of one. -/
theorem spelling_exact_underscore :
    split? "address___city" = some ⟨"address", some "_city", none⟩ ∧
      (⟨"address", some "_city", none⟩ : FieldPath).text = "address___city" ∧
      split? (⟨"address_", some "city", none⟩ : FieldPath).text
        ≠ some ⟨"address_", some "city", none⟩ := by
  have split : split? "address___city" = some ⟨"address", some "_city", none⟩ := by
    decide +kernel
  refine ⟨split, spelling_exact.1 _ _ split, fun back => ?_⟩
  exact (spelling_exact.2 _).mp back |>.stopped "address_" (by simp [parts]) (by decide +kernel)

end FieldPath

end Sift
