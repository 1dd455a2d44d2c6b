/-
**The document of a restriction says what the restriction is.**

A store sees of a restriction what `Restriction.wireTree` keeps of it: not the paths that the names
of fields stand for, and of literals only the text.

* `WireTree.read?` — reads such a tree from a document.
* `Restriction.retext` — a restriction with other texts in place of its own.
* `Restriction.xml_faithful` — the tree is read back from the document, whatever its texts are; the
  tags of the document are closed in order, the namespace of the parts is declared once, and no text
  has any part in where tags and attributes begin and end.
-/

import Sift.Proofs.Xml.Outline
import Sift.Restriction.Markup

namespace Sift

/-- The name of a field as a document has it. -/
structure WireField where
  uri : String
  label : Option String
  deriving DecidableEq

/-- A restriction as a document has it. -/
inductive WireTree where
  | and (children : List WireTree)
  | or (children : List WireTree)
  | not (child : WireTree)
  | compare (field : WireField) (comparison : Comparison) (text : String)
  | contains (field : WireField) (mode : ContainmentMode) (casing : Casing) (text : String)
  | present (field : WireField)

def FieldUri.wireField (field : FieldUri) : WireField := ⟨field.uri, field.label⟩

namespace Restriction

mutual

/-- What a document says of a restriction. -/
def wireTree : Restriction → WireTree
  | .and children => .and (wireTreeAll children)
  | .or children => .or (wireTreeAll children)
  | .not child => .not (wireTree child)
  | .compare field comparison literal => .compare field.wireField comparison literal.text
  | .contains field mode casing literal => .contains field.wireField mode casing literal.text
  | .present field => .present field.wireField

def wireTreeAll : List Restriction → List WireTree
  | [] => []
  | child :: rest => wireTree child :: wireTreeAll rest

end

end Restriction

/-! ### Reading a document -/

/-- The comparison that an element stands for. -/
def Comparison.ofElement? (name : String) : Option Comparison :=
  [.equal, .notEqual, .greater, .atLeast, .less, .atMost].find? fun comparison =>
    comparison.element = name

def ContainmentMode.ofWord? (word : String) : Option ContainmentMode :=
  [.fullString, .substring, .prefixed].find? fun mode => mode.word = word

def Casing.ofWord? (word : String) : Option Casing :=
  [.exact, .ignoreCase].find? fun casing => casing.word = word

theorem Comparison.ofElement?_element (comparison : Comparison) :
    ofElement? comparison.element = some comparison := by
  cases comparison <;> decide

/-- No comparison is written like another kind of restriction. -/
theorem Comparison.element_other (comparison : Comparison) :
    comparison.element ≠ "t:And" ∧ comparison.element ≠ "t:Or" ∧ comparison.element ≠ "t:Not" ∧
      comparison.element ≠ "t:Exists" ∧ comparison.element ≠ "t:Contains" := by
  cases comparison <;> decide

theorem ContainmentMode.ofWord?_word (mode : ContainmentMode) : ofWord? mode.word = some mode := by
  cases mode <;> decide

theorem Casing.ofWord?_word (casing : Casing) : ofWord? casing.word = some casing := by
  cases casing <;> decide

/-- The field that an element names. -/
def WireField.ofXml? : Xml → Option WireField
  | .empty name attributes =>
    if name = "t:FieldURI" then do
      return ⟨← attributes.lookup "FieldURI", none⟩
    else if name = "t:IndexedFieldURI" then do
      return ⟨← attributes.lookup "FieldURI", some (← attributes.lookup "FieldIndex")⟩
    else none
  | .element _ _ _ => none

/-- The text of a literal. -/
def constant? : Xml → Option String
  | .empty name attributes => if name = "t:Constant" then attributes.lookup "Value" else none
  | .element _ _ _ => none

namespace WireTree

mutual

/-- The tree that an element stands for. -/
def ofXml? : Xml → Option WireTree
  | .empty _ _ => none
  | .element name attributes children =>
    if name = "t:And" then (ofXmlAll? children).map .and
    else if name = "t:Or" then (ofXmlAll? children).map .or
    else if name = "t:Not" then
      match ofXmlAll? children with
      | some [child] => some (.not child)
      | _ => none
    else if name = "t:Exists" then
      match children with
      | [field] => (WireField.ofXml? field).map .present
      | _ => none
    else if name = "t:Contains" then
      match children with
      | [field, literal] => do
        let mode ← ContainmentMode.ofWord? (← attributes.lookup "ContainmentMode")
        let casing ← Casing.ofWord? (← attributes.lookup "ContainmentComparison")
        return .contains (← WireField.ofXml? field) mode casing (← constant? literal)
      | _ => none
    else
      match children with
      | [field, .element operand _ [literal]] => do
        let comparison ← Comparison.ofElement? name
        if operand = "t:FieldURIOrConstant" then
          return .compare (← WireField.ofXml? field) comparison (← constant? literal)
        else none
      | _ => none

def ofXmlAll? : List Xml → Option (List WireTree)
  | [] => some []
  | xml :: rest => do return (← ofXml? xml) :: (← ofXmlAll? rest)

end

/-- The tree that a document stands for. -/
def ofDocument? : Xml → Option WireTree
  | .element name _ [child] => if name = "m:Restriction" then ofXml? child else none
  | _ => none

/-- The tree that is read from the text of a document. -/
def read? (text : String) : Option WireTree := do ofDocument? (← Xml.read? text)

end WireTree

theorem WireField.ofXml?_toXml (field : FieldUri) : ofXml? field.toXml = some field.wireField := by
  obtain ⟨uri, label, path⟩ := field
  cases label <;> rfl

theorem constant?_toXml (literal : Literal) : constant? literal.toXml = some literal.text := rfl

namespace Restriction

mutual

/-- The tree is read from the element of a restriction, at the top and within. -/
theorem ofXml?_toXml : ∀ (r : Restriction) {attributes : List (String × String)},
    attributes = [] ∨ attributes = declaration →
      WireTree.ofXml? (r.toXml attributes) = some r.wireTree
  | .and children, _, _ => by
    simp [toXml, WireTree.ofXml?, wireTree, ofXmlAll?_toXmlAll children]
  | .or children, _, _ => by
    simp [toXml, WireTree.ofXml?, wireTree, ofXmlAll?_toXmlAll children]
  | .not child, _, _ => by
    simp [toXml, WireTree.ofXml?, WireTree.ofXmlAll?, wireTree, ofXml?_toXml child (.inl rfl)]
  | .compare field comparison literal, _, _ => by
    obtain ⟨notAnd, notOr, notNot, notExists, notContains⟩ := comparison.element_other
    simp [toXml, WireTree.ofXml?, wireTree, notAnd, notOr, notNot, notExists, notContains,
      comparison.ofElement?_element, WireField.ofXml?_toXml, constant?_toXml]
  | .contains field mode casing literal, attributes, place => by
    have modes : (attributes ++ [("ContainmentMode", mode.word),
        ("ContainmentComparison", casing.word)]).lookup "ContainmentMode" = some mode.word := by
      rcases place with rfl | rfl <;> rfl
    have casings : (attributes ++ [("ContainmentMode", mode.word),
        ("ContainmentComparison", casing.word)]).lookup "ContainmentComparison"
          = some casing.word := by
      rcases place with rfl | rfl <;> rfl
    simp [toXml, WireTree.ofXml?, wireTree, modes, casings, mode.ofWord?_word,
      casing.ofWord?_word, WireField.ofXml?_toXml, constant?_toXml]
  | .present field, _, _ => by
    simp [toXml, WireTree.ofXml?, wireTree, WireField.ofXml?_toXml]

theorem ofXmlAll?_toXmlAll : ∀ rs : List Restriction,
    WireTree.ofXmlAll? (toXmlAll rs) = some (wireTreeAll rs)
  | [] => rfl
  | r :: rest => by
    simp [toXmlAll, WireTree.ofXmlAll?, wireTreeAll, ofXml?_toXml r (.inl rfl),
      ofXmlAll?_toXmlAll rest]

end

/-- The element that a search carries. -/
def document (r : Restriction) : Xml :=
  .element "m:Restriction" [("xmlns:m", messagesNamespace)] [r.toXml declaration]

theorem xml_eq (r : Restriction) : r.xml = r.document.text := rfl

theorem ofDocument?_document (r : Restriction) :
    WireTree.ofDocument? r.document = some r.wireTree := by
  simp [document, WireTree.ofDocument?, ofXml?_toXml r (.inr rfl)]

end Restriction

/-! ### The tags of a document -/

namespace Restriction

/-- The tags that restrictions are made of, without their texts. -/
def vocabulary : List Tag :=
  (["t:And", "t:Or", "t:Not", "t:Exists", "t:FieldURIOrConstant", "t:IsEqualTo", "t:IsNotEqualTo",
      "t:IsGreaterThan", "t:IsGreaterThanOrEqualTo", "t:IsLessThan",
      "t:IsLessThanOrEqualTo"].flatMap fun name => [.opening name [], .closing name]) ++
    [.opening "t:Contains" [("ContainmentMode", ""), ("ContainmentComparison", "")],
      .closing "t:Contains", .empty "t:FieldURI" [("FieldURI", "")],
      .empty "t:IndexedFieldURI" [("FieldURI", ""), ("FieldIndex", "")],
      .empty "t:Constant" [("Value", "")]]

def isPart (tag : Tag) : Bool := vocabulary.contains tag.outline

theorem isPart_field (field : FieldUri) : field.toXml.tags.all isPart = true := by
  obtain ⟨uri, label, path⟩ := field
  cases label <;> rfl

theorem isPart_literal (literal : Literal) : literal.toXml.tags.all isPart = true := rfl

mutual

/-- A restriction is made of nothing else. -/
theorem isPart_toXml : ∀ r : Restriction, (r.toXml []).tags.all isPart = true
  | .and children => by
    rw [toXml, Xml.all_tags_element, isPart_toXmlAll children]
    decide
  | .or children => by
    rw [toXml, Xml.all_tags_element, isPart_toXmlAll children]
    decide
  | .not child => by
    rw [toXml, Xml.all_tags_element, Xml.all_tagsAll_cons, isPart_toXml child]
    decide
  | .compare field comparison literal => by
    rw [toXml, Xml.all_tags_element, Xml.all_tagsAll_cons, Xml.all_tagsAll_cons, isPart_field,
      Xml.all_tags_element, Xml.all_tagsAll_cons, isPart_literal]
    cases comparison <;> decide
  | .contains field mode casing literal => by
    rw [toXml, Xml.all_tags_element, Xml.all_tagsAll_cons, Xml.all_tagsAll_cons, isPart_field,
      isPart_literal]
    rfl
  | .present field => by
    rw [toXml, Xml.all_tags_element, Xml.all_tagsAll_cons, isPart_field]
    decide

theorem isPart_toXmlAll : ∀ rs : List Restriction, (Xml.tagsAll (toXmlAll rs)).all isPart = true
  | [] => rfl
  | r :: rest => by
    rw [toXmlAll, Xml.tagsAll, List.all_append, isPart_toXml r, isPart_toXmlAll rest]
    rfl

end

/-- Attributes in front of its own stand in the element of a restriction, and not within it. -/
theorem toXml_eq (r : Restriction) : ∃ name own content, ∀ attributes : List (String × String),
    r.toXml attributes = .element name (attributes ++ own) content := by
  cases r with
  | and children => exact ⟨"t:And", [], toXmlAll children, by simp [toXml]⟩
  | or children => exact ⟨"t:Or", [], toXmlAll children, by simp [toXml]⟩
  | not child => exact ⟨"t:Not", [], [child.toXml []], by simp [toXml]⟩
  | compare field comparison literal =>
    exact ⟨comparison.element, [],
      [field.toXml, .element "t:FieldURIOrConstant" [] [literal.toXml]], by simp [toXml]⟩
  | contains field mode casing literal =>
    exact ⟨"t:Contains",
      [("ContainmentMode", mode.word), ("ContainmentComparison", casing.word)],
      [field.toXml, literal.toXml], fun _ => rfl⟩
  | present field => exact ⟨"t:Exists", [], [field.toXml], by simp [toXml]⟩

/-- The first tags of a document, with what follows made up of parts. -/
theorem tags_document (r : Restriction) : ∃ name own body,
    r.document.tags = .opening "m:Restriction" [("xmlns:m", messagesNamespace)] ::
        .opening name (declaration ++ own) :: (body ++ [.closing "m:Restriction"]) ∧
      isPart (.opening name own) = true ∧ body.all isPart = true := by
  obtain ⟨name, own, content, element⟩ := r.toXml_eq
  have parts := r.isPart_toXml
  rw [element [], List.nil_append, Xml.tags, List.cons_append, List.all_cons,
    Bool.and_eq_true] at parts
  refine ⟨name, own, Xml.tagsAll content ++ [.closing name], ?_, parts⟩
  simp [document, element declaration, Xml.tags, Xml.tagsAll]

/-- The names of parts can be read, and none of their attributes declares a namespace. -/
theorem of_isPart {tag : Tag} (part : isPart tag = true) :
    Xml.isNamed tag = true ∧ tag.attributes.filter (fun pair => pair.1 = "xmlns:t") = [] := by
  have known : tag.outline ∈ vocabulary := List.contains_iff_mem.mp part
  have all : ∀ outline ∈ vocabulary, Xml.isNamed outline = true ∧
      ∀ pair ∈ outline.attributes, pair.1 ≠ "xmlns:t" := by decide +kernel
  obtain ⟨named, undeclared⟩ := all _ known
  refine ⟨tag.isNamed_outline ▸ named, ?_⟩
  rw [List.filter_eq_nil_iff]
  intro pair member
  have outlined : (pair.1, "") ∈ tag.outline.attributes := by
    rw [tag.attributes_outline]
    exact List.mem_map_of_mem member
  simpa using undeclared _ outlined

theorem isNamed_document (r : Restriction) : ∀ tag ∈ r.document.tags, Xml.isNamed tag = true := by
  obtain ⟨name, own, body, tags, front, parts⟩ := r.tags_document
  have named : Xml.isNamed (.opening name own) = true := (of_isPart front).1
  intro tag member
  rw [tags] at member
  simp only [List.mem_cons, List.mem_append, List.not_mem_nil, or_false] at member
  rcases member with rfl | rfl | member | rfl
  · decide
  · exact named
  · exact (of_isPart (List.all_eq_true.mp parts tag member)).1
  · decide

/-- The text of a restriction is cut into the tags of its document. -/
theorem tags?_xml (r : Restriction) : Xml.tags? r.xml = some r.document.tags :=
  Xml.tags?_text r.isNamed_document

/-- The tree of a restriction is read back from its text. -/
theorem read?_xml (r : Restriction) : WireTree.read? r.xml = some r.wireTree := by
  rw [WireTree.read?, xml_eq, Xml.read?_text r.isNamed_document]
  exact r.ofDocument?_document

/-- The namespace of the parts is declared once. -/
theorem declarations_document (r : Restriction) :
    (r.document.tags.flatMap Tag.attributes).filter (fun pair => pair.1 = "xmlns:t")
      = declaration := by
  obtain ⟨name, own, body, tags, front, parts⟩ := r.tags_document
  have undeclared : (body.flatMap Tag.attributes).filter (fun pair => pair.1 = "xmlns:t") = [] := by
    rw [List.filter_flatMap, List.flatMap_eq_nil_iff]
    intro tag member
    exact (of_isPart (List.all_eq_true.mp parts tag member)).2
  have undeclared' : own.filter (fun pair => pair.1 = "xmlns:t") = [] := (of_isPart front).2
  simp [tags, Tag.attributes, declaration, undeclared, undeclared']

end Restriction

/-! ### Other texts -/

def FieldUri.retext (change : String → String) (field : FieldUri) : FieldUri :=
  { field with uri := change field.uri, label := field.label.map change }

/-- A literal with another text, which is taken for its value. -/
def Literal.retext (change : String → String) (literal : Literal) : Literal :=
  ⟨.text (change literal.text), change literal.text, rfl⟩

theorem FieldUri.outline_retext (change : String → String) (field : FieldUri) :
    (field.retext change).toXml.tags.map Tag.outline = field.toXml.tags.map Tag.outline := by
  obtain ⟨uri, label, path⟩ := field
  cases label <;> rfl

theorem Literal.outline_retext (change : String → String) (literal : Literal) :
    (literal.retext change).toXml.tags.map Tag.outline = literal.toXml.tags.map Tag.outline := rfl

namespace Restriction

mutual

/-- A restriction with other texts in place of those of its fields, labels and literals. -/
def retext (change : String → String) : Restriction → Restriction
  | .and children => .and (retextAll change children)
  | .or children => .or (retextAll change children)
  | .not child => .not (retext change child)
  | .compare field comparison literal =>
    .compare (field.retext change) comparison (literal.retext change)
  | .contains field mode casing literal =>
    .contains (field.retext change) mode casing (literal.retext change)
  | .present field => .present (field.retext change)

def retextAll (change : String → String) : List Restriction → List Restriction
  | [] => []
  | child :: rest => retext change child :: retextAll change rest

end

mutual

/-- Other texts stand in the same tags. -/
theorem outline_retext (change : String → String) :
    ∀ (r : Restriction) (attributes : List (String × String)),
      ((r.retext change).toXml attributes).tags.map Tag.outline
        = (r.toXml attributes).tags.map Tag.outline
  | .and children, attributes => by
    simp [retext, toXml, Xml.tags, outline_retextAll change children]
  | .or children, attributes => by
    simp [retext, toXml, Xml.tags, outline_retextAll change children]
  | .not child, attributes => by
    simp [retext, toXml, Xml.tags, Xml.tagsAll, outline_retext change child]
  | .compare field comparison literal, attributes => by
    simp [retext, toXml, Xml.tags, Xml.tagsAll, field.outline_retext, literal.outline_retext]
  | .contains field mode casing literal, attributes => by
    simp [retext, toXml, Xml.tags, Xml.tagsAll, field.outline_retext, literal.outline_retext]
  | .present field, attributes => by
    simp [retext, toXml, Xml.tags, Xml.tagsAll, field.outline_retext]

theorem outline_retextAll (change : String → String) : ∀ rs : List Restriction,
    (Xml.tagsAll (toXmlAll (retextAll change rs))).map Tag.outline
      = (Xml.tagsAll (toXmlAll rs)).map Tag.outline
  | [] => rfl
  | r :: rest => by
    simp [retextAll, toXmlAll, Xml.tagsAll, outline_retext change r,
      outline_retextAll change rest]

end

/-- **The document determines the restriction.** What the store sees of it is read back from the
text; the tags are closed in order; the namespace of the parts is declared once, on the first child;
and whatever texts stand for fields, labels and literals, the tags, their attributes and the marks
that begin and end them are the same. -/
theorem xml_faithful (r : Restriction) :
    WireTree.read? r.xml = some r.wireTree ∧
    (∀ other : Restriction, other.xml = r.xml → other.wireTree = r.wireTree) ∧
    ∃ tags, Xml.tags? r.xml = some tags ∧ Xml.Balanced tags ∧
      (∃ name own rest,
        tags = .opening "m:Restriction" [("xmlns:m", messagesNamespace)] ::
          .opening name (("xmlns:t", typesNamespace) :: own) :: rest) ∧
      (tags.flatMap Tag.attributes).filter (fun pair => pair.1 = "xmlns:t")
        = [("xmlns:t", typesNamespace)] ∧
      ∀ change : String → String,
        (∃ others, Xml.tags? (r.retext change).xml = some others ∧
          others.map Tag.outline = tags.map Tag.outline) ∧
        (r.retext change).xml.toList.filter Xml.isMark = r.xml.toList.filter Xml.isMark := by
  refine ⟨r.read?_xml, fun other same => ?_, r.document.tags, r.tags?_xml,
    r.document.balanced_tags, ?_, r.declarations_document, fun change => ?_⟩
  · have there := other.read?_xml
    rw [same, r.read?_xml] at there
    exact (Option.some.inj there).symm
  · obtain ⟨name, own, body, tags, -, -⟩ := r.tags_document
    exact ⟨name, own, _, tags⟩
  · have outlines : (r.retext change).document.tags.map Tag.outline
        = r.document.tags.map Tag.outline := by
      simp [document, Xml.tags, Xml.tagsAll, outline_retext change r declaration]
    refine ⟨⟨_, (r.retext change).tags?_xml, outlines⟩, ?_⟩
    rw [xml_eq, xml_eq]
    exact Xml.filter_text_congr outlines

/-- Texts that look like markup: a name that closes its attribute and a literal that closes every
tag around it. A literal that is a number has the same document as the text of its digits. -/
theorem xml_faithful_markup :
    let field : FieldUri := ⟨"item:Subject\" x=\"", some "</t:Not>&lt;", .ofField "subject"⟩
    let other : FieldUri := { field with path := .ofField "body" }
    let number : Literal := ⟨.int 5, "5", rfl⟩
    let digits : Literal := ⟨.text "5", "5", rfl⟩
    let closing : Literal := ⟨.text "'/></t:Or></m:Restriction>", "'/></t:Or></m:Restriction>", rfl⟩
    let r : Restriction :=
      .or [.not (.contains field .prefixed .ignoreCase closing), .compare field .less number]
    let same : Restriction :=
      .or [.not (.contains other .prefixed .ignoreCase closing), .compare other .less digits]
    same.xml = r.xml ∧ same.wireTree = r.wireTree ∧
      WireTree.read? r.xml = some
        (.or [.not (.contains field.wireField .prefixed .ignoreCase "'/></t:Or></m:Restriction>"),
          .compare field.wireField .less "5"]) := by
  intro field other number digits closing r same
  have elements : same.document = r.document := rfl
  have texts : same.xml = r.xml := congrArg Xml.text elements
  obtain ⟨reads, determines, -⟩ := xml_faithful r
  exact ⟨texts, determines same texts, reads⟩

end Restriction

end Sift
