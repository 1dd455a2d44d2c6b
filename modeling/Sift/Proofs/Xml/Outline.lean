/-
**What the texts of attributes have no part in.**

* `Tag.outline` — a tag with its names only.
* `Xml.isMark` — the characters that begin and end tags and attributes.
* `Xml.filter_text_congr` — elements whose tags have the same outlines have the same marks in the
  same order.
-/

import Sift.Proofs.Xml.Reading

namespace Sift

/-- A tag without the texts of its attributes. -/
def Tag.outline : Tag → Tag
  | .empty name attributes => .empty name (attributes.map fun pair => (pair.1, ""))
  | .opening name attributes => .opening name (attributes.map fun pair => (pair.1, ""))
  | .closing name => .closing name

theorem Tag.name_outline (tag : Tag) : tag.outline.name = tag.name := by
  cases tag <;> rfl

theorem Tag.attributes_outline (tag : Tag) :
    tag.outline.attributes = tag.attributes.map fun pair => (pair.1, "") := by
  cases tag <;> rfl

/-- Whether its names can be read does not depend on the texts of a tag. -/
theorem Tag.isNamed_outline (tag : Tag) : Xml.isNamed tag.outline = Xml.isNamed tag := by
  rw [Xml.isNamed, Xml.isNamed, name_outline, attributes_outline, List.all_map]
  rfl

/-! ### All tags of an element -/

/-- All tags of an element with content: the two around it and those within. -/
theorem Xml.all_tags_element (test : Tag → Bool) (name : String)
    (attributes : List (String × String)) (children : List Xml) :
    (element name attributes children).tags.all test
      = (test (.opening name attributes) && (tagsAll children).all test &&
          test (.closing name)) := by
  simp [tags, Bool.and_assoc]

theorem Xml.all_tagsAll_cons (test : Tag → Bool) (xml : Xml) (rest : List Xml) :
    (tagsAll (xml :: rest)).all test = (xml.tags.all test && (tagsAll rest).all test) := by
  rw [tagsAll, List.all_append]

/-! ### Marks -/

/-- Whether a character begins or ends a tag or an attribute. -/
def Xml.isMark (c : Char) : Bool :=
  c = '<' || c = '>' || c = '"'

/-- The marks of attributes do not depend on their texts. -/
theorem Xml.filter_attributeChars (attributes : List (String × String)) :
    (attributeChars attributes).filter isMark
      = (attributeChars (attributes.map fun pair => (pair.1, ""))).filter isMark := by
  induction attributes with
  | nil => rfl
  | cons pair rest ih =>
    have none : (escape pair.2.toList).filter isMark = [] := by
      rw [List.filter_eq_nil_iff]
      intro c member
      obtain ⟨less, greater, quote⟩ := mem_escape member
      simp [isMark, less, greater, quote]
    have none' : (escape "".toList).filter isMark = [] := rfl
    simp only [List.map_cons, attributeChars, List.cons_append, List.filter_cons,
      List.filter_append, none, none', ih]

/-- The marks of a tag do not depend on its texts. -/
theorem Tag.filter_chars (tag : Tag) :
    tag.chars.filter Xml.isMark = tag.outline.chars.filter Xml.isMark := by
  cases tag with
  | empty name attributes =>
    simp only [outline, chars, List.cons_append, List.filter_cons, List.filter_append,
      Xml.filter_attributeChars attributes]
  | opening name attributes =>
    simp only [outline, chars, List.cons_append, List.filter_cons, List.filter_append,
      Xml.filter_attributeChars attributes]
  | closing name => rfl

/-- Elements whose tags have the same outlines have their marks in the same order. -/
theorem Xml.filter_text_congr {xml other : Xml}
    (outlines : xml.tags.map Tag.outline = other.tags.map Tag.outline) :
    xml.text.toList.filter isMark = other.text.toList.filter isMark := by
  have marks : ∀ tags : List Tag, (tags.flatMap Tag.chars).filter isMark
      = (tags.map Tag.outline).flatMap fun tag => tag.chars.filter isMark := by
    intro tags
    induction tags with
    | nil => rfl
    | cons tag rest ih =>
      rw [List.flatMap_cons, List.filter_append, ih, tag.filter_chars]
      rfl
  rw [text, text, String.toList_ofList, String.toList_ofList, chars_eq, chars_eq, marks, marks,
    outlines]

end Sift
