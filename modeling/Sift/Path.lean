/-
**Paths to fields, to their labeled entries and to the sub-fields of those.**

A path is written `field`, `field__label` or `field__label__subfield`.

* `FieldPath.split?` — the path that a text spells, if each of its one to three parts is non-empty.
* `FieldPath.text` — the spelling of a path.
* `FieldPath.text_of_split?` — what is split spells itself.
-/

import Sift.Text.Separator

namespace Sift

/-- A field, possibly narrowed to one labeled entry, possibly narrowed to one sub-field. -/
structure FieldPath where
  field : String
  label : Option String
  subfield : Option String
  deriving DecidableEq

namespace FieldPath

def ofField (field : String) : FieldPath := ⟨field, none, none⟩

/-- The path that a text spells. The parts are not checked against any catalog. -/
def split? (text : String) : Option FieldPath :=
  let parts := Text.pieces text.toList
  if parts.any List.isEmpty then none
  else
    match parts.map String.ofList with
    | [field] => some ⟨field, none, none⟩
    | [field, label] => some ⟨field, some label, none⟩
    | [field, label, subfield] => some ⟨field, some label, some subfield⟩
    | _ => none

/-- A part with a separator in front, or nothing. -/
def continued : Option String → String
  | none => ""
  | some part => Text.separator ++ part

/-- The spelling of a path. -/
def text (path : FieldPath) : String :=
  path.field ++ continued path.label ++ continued path.subfield

/-- The parts of a path that are there, in order. -/
def parts (path : FieldPath) : List String :=
  path.field :: (path.label.toList ++ path.subfield.toList)

/-- The order of optional parts, an absent one first. -/
def compareParts : Option String → Option String → Ordering
  | none, none => .eq
  | none, some _ => .lt
  | some _, none => .gt
  | some a, some b => Ord.compare a b

/-- The order of paths: by field, then by label, then by sub-field. -/
def compare (a b : FieldPath) : Ordering :=
  (Ord.compare a.field b.field).then <|
    (compareParts a.label b.label).then (compareParts a.subfield b.subfield)

example : split? "home__city" = some ⟨"home", some "city", none⟩ := by decide +kernel
example : split? "a____b" = none := by decide +kernel

/-- The spelling of a path is its parts, joined. -/
theorem toList_text (path : FieldPath) :
    path.text.toList = Text.join (path.parts.map String.toList) := by
  obtain ⟨field, label, subfield⟩ := path
  cases label <;> cases subfield <;>
    simp [text, continued, parts, Text.join, Text.separator, String.toList_append]

/-- The parts of a path that was split are the pieces of its text. -/
theorem parts_of_split? {text : String} {path : FieldPath} (split : split? text = some path) :
    path.parts.map String.toList = Text.pieces text.toList := by
  have back : ∀ texts, (Text.pieces text.toList).map String.ofList = texts →
      texts.map String.toList = Text.pieces text.toList := by
    rintro _ rfl
    simp [List.map_map, Function.comp_def]
  simp only [split?] at split
  split at split
  · cases split
  · split at split
    · rename_i field same
      cases split
      exact back _ same
    · rename_i field label same
      cases split
      exact back _ same
    · rename_i field label subfield same
      cases split
      exact back _ same
    · cases split

/-- What is split spells itself. -/
theorem text_of_split? {text : String} {path : FieldPath} (split : split? text = some path) :
    path.text = text := by
  have spelled : path.text.toList = text.toList := by
    rw [toList_text, parts_of_split? split, Text.join_pieces]
  exact String.toList_inj.mp spelled

end FieldPath

end Sift
