/-
**Elements are read back from their text.**

A reader of XML in two steps: the text is cut into tags, and tags that belong together are made into
elements. It knows elements, attributes and the five entities, which is all that is ever written.

* `Xml.unescape?_escape` — an attribute's text is read back, whatever characters it has.
* `Xml.tags?_text` — the text of an element is cut into its tags.
* `Xml.balanced_tags` — what is opened is closed in order.
* `Xml.read?_text` — an element is read back from its text.
-/

import Sift.Proofs.Text.Scan
import Sift.Xml

namespace Sift

open Text (Scan)
open Text.Scan (bind_of_reads)

/-- One tag: it stands for a whole element without content, or begins or ends one with content. -/
inductive Tag where
  | empty (name : String) (attributes : List (String × String))
  | opening (name : String) (attributes : List (String × String))
  | closing (name : String)
  deriving DecidableEq

namespace Tag

def name : Tag → String
  | .empty name _ | .opening name _ | .closing name => name

def attributes : Tag → List (String × String)
  | .empty _ attributes | .opening _ attributes => attributes
  | .closing _ => []

def chars : Tag → List Char
  | .empty name attributes => '<' :: name.toList ++ Xml.attributeChars attributes ++ ['/', '>']
  | .opening name attributes => '<' :: name.toList ++ Xml.attributeChars attributes ++ ['>']
  | .closing name => '<' :: '/' :: name.toList ++ ['>']

end Tag

namespace Xml

mutual

/-- The tags of an element. -/
def tags : Xml → List Tag
  | .empty name attributes => [.empty name attributes]
  | .element name attributes children =>
    .opening name attributes :: tagsAll children ++ [.closing name]

def tagsAll : List Xml → List Tag
  | [] => []
  | xml :: rest => tags xml ++ tagsAll rest

end

mutual

/-- The text of an element is that of its tags. -/
theorem chars_eq : ∀ xml : Xml, xml.chars = xml.tags.flatMap Tag.chars
  | .empty name attributes => by simp [chars, tags, Tag.chars]
  | .element name attributes children => by
    simp [chars, tags, Tag.chars, charsAll_eq children]

theorem charsAll_eq : ∀ xmls : List Xml, charsAll xmls = (tagsAll xmls).flatMap Tag.chars
  | [] => rfl
  | xml :: rest => by simp [charsAll, tagsAll, chars_eq xml, charsAll_eq rest]

end

/-! ### Attributes -/

/-- The text of an attribute, with its entities replaced by what they stand for. No other ampersand
and no angle bracket that opens a tag may stand there. -/
def unescape? : List Char → Option (List Char)
  | [] => some []
  | '&' :: 'l' :: 't' :: ';' :: rest => (unescape? rest).map ('<' :: ·)
  | '&' :: 'g' :: 't' :: ';' :: rest => (unescape? rest).map ('>' :: ·)
  | '&' :: 'a' :: 'm' :: 'p' :: ';' :: rest => (unescape? rest).map ('&' :: ·)
  | '&' :: 'a' :: 'p' :: 'o' :: 's' :: ';' :: rest => (unescape? rest).map ('\'' :: ·)
  | '&' :: 'q' :: 'u' :: 'o' :: 't' :: ';' :: rest => (unescape? rest).map ('"' :: ·)
  | c :: rest => if c = '&' || c = '<' then none else (unescape? rest).map (c :: ·)

theorem unescape?_append (c : Char) (rest : List Char) :
    unescape? (escapeChar c ++ rest) = (unescape? rest).map (c :: ·) := by
  by_cases less : c = '<'
  · subst less
    rfl
  by_cases greater : c = '>'
  · subst greater
    rfl
  by_cases ampersand : c = '&'
  · subst ampersand
    rfl
  by_cases apostrophe : c = '\''
  · subst apostrophe
    rfl
  by_cases quote : c = '"'
  · subst quote
    rfl
  have plain : escapeChar c = [c] := by
    simp [escapeChar, less, greater, ampersand, apostrophe, quote]
  rw [plain, List.singleton_append, unescape?]
  all_goals simp [less, ampersand]

/-- An attribute's text is read back. -/
theorem unescape?_escape (value : List Char) : unescape? (escape value) = some value := by
  induction value with
  | nil => rfl
  | cons c rest ih =>
    rw [escape, List.flatMap_cons, unescape?_append]
    show (unescape? (escape rest)).map _ = _
    rw [ih]
    rfl

theorem mem_escapeChar (source : Char) :
    ∀ c ∈ escapeChar source, c ≠ '<' ∧ c ≠ '>' ∧ c ≠ '"' := by
  unfold escapeChar
  split
  · simp
  split
  · simp
  split
  · simp
  split
  · simp
  split
  · simp
  rename_i less greater _ _ quote
  intro c member
  cases List.mem_singleton.mp member
  exact ⟨less, greater, quote⟩

/-- No character of an attribute's text is one that ends the attribute, or a tag, or begins one. -/
theorem mem_escape {value : List Char} {c : Char} (member : c ∈ escape value) :
    c ≠ '<' ∧ c ≠ '>' ∧ c ≠ '"' := by
  obtain ⟨source, -, here⟩ := List.mem_flatMap.mp member
  exact mem_escapeChar source c here

def nameChar (c : Char) : Bool :=
  c.isAlpha || c = ':'

/-- Whether a text can be the name of an element or an attribute. -/
def isName (name : String) : Bool :=
  name ≠ "" && name.toList.all nameChar

/-- Reads a name, as long as it goes. -/
def readName : Scan String := fun text =>
  let run := text.takeWhile nameChar
  if run = [] then none else some (String.ofList run, text.drop run.length)

theorem readName_append {name : String} {rest : List Char} (named : isName name = true)
    (stop : rest.head?.any nameChar = false) :
    readName (name.toList ++ rest) = some (name, rest) := by
  simp only [isName, Bool.and_eq_true, decide_eq_true_eq, List.all_eq_true] at named
  have run := Text.Scan.takeWhile_append_of_stop named.2 stop
  have filled : name.toList ≠ [] := by simpa using named.1
  simp only [readName, run, filled, if_false, List.drop_left, String.ofList_toList]

/-- Reads the text of an attribute up to the mark behind it. -/
def readValue : Scan String := fun text =>
  (unescape? (text.takeWhile (· ≠ '"'))).map fun value =>
    (String.ofList value, text.dropWhile (· ≠ '"'))

theorem readValue_append (value : String) (rest : List Char) :
    readValue (escape value.toList ++ '"' :: rest) = some (value, '"' :: rest) := by
  have passes : ∀ c ∈ escape value.toList, decide (c ≠ '"') = true := by
    intro c member
    simpa using (mem_escape member).2.2
  rw [readValue, List.takeWhile_append_of_pos passes, List.dropWhile_append_of_pos passes]
  simp [unescape?_escape]

/-- Reads an attribute with the blank in front of it. -/
def readAttribute : Scan (String × String) := do
  let _ ← Scan.char ' '
  let name ← readName
  let _ ← Scan.char '='
  let _ ← Scan.char '"'
  let value ← readValue
  let _ ← Scan.char '"'
  return (name, value)

/-- The characters of one attribute. -/
def pairChars (pair : String × String) : List Char :=
  ' ' :: (pair.1.toList ++ '=' :: '"' :: (escape pair.2.toList ++ ['"']))

theorem attributeChars_eq (attributes : List (String × String)) :
    attributeChars attributes = attributes.flatMap pairChars := by
  induction attributes with
  | nil => rfl
  | cons pair rest ih => simp [attributeChars, pairChars, ih]

theorem readAttribute_append {pair : String × String} (named : isName pair.1 = true)
    (rest : List Char) : readAttribute (pairChars pair ++ rest) = some (pair, rest) := by
  have name : readName (pair.1.toList ++ '=' :: '"' :: (escape pair.2.toList ++ '"' :: rest))
      = some (pair.1, '=' :: '"' :: (escape pair.2.toList ++ '"' :: rest)) :=
    readName_append named rfl
  have text : pairChars pair ++ rest
      = ' ' :: (pair.1.toList ++ '=' :: '"' :: (escape pair.2.toList ++ '"' :: rest)) := by
    simp [pairChars]
  rw [text]
  refine (bind_of_reads (Scan.char_cons ' ')).trans ?_
  refine (bind_of_reads name).trans ?_
  refine (bind_of_reads (Scan.char_cons '=')).trans ?_
  refine (bind_of_reads (Scan.char_cons '"')).trans ?_
  refine (bind_of_reads (readValue_append pair.2 rest)).trans ?_
  exact bind_of_reads (Scan.char_cons '"')

/-- Attributes are read back where no further one follows. -/
theorem many_readAttribute {attributes : List (String × String)}
    (named : ∀ pair ∈ attributes, isName pair.1 = true) {rest : List Char}
    (stop : rest.head?.any (· = ' ') = false) :
    Scan.many (· = ' ') readAttribute (attributeChars attributes ++ rest)
      = some (attributes, rest) := by
  rw [attributeChars_eq]
  exact Scan.many_flatMap (fun pair _ => rfl)
    (fun pair member rest => readAttribute_append (named pair member) rest) stop

/-- Reads a tag. -/
def readTag : Scan Tag := do
  let _ ← Scan.char '<'
  if ← Scan.peek (· = '/') then
    let _ ← Scan.char '/'
    let name ← readName
    let _ ← Scan.char '>'
    return .closing name
  else
    let name ← readName
    let attributes ← Scan.many (· = ' ') readAttribute
    if ← Scan.peek (· = '/') then
      let _ ← Scan.char '/'
      let _ ← Scan.char '>'
      return .empty name attributes
    else
      let _ ← Scan.char '>'
      return .opening name attributes

/-- Whether the names of a tag can be read. -/
def isNamed (tag : Tag) : Bool :=
  isName tag.name && tag.attributes.all fun pair => isName pair.1

/-- A name does not begin with a slash. -/
theorem head?_name {name : String} (named : isName name = true) (rest : List Char) :
    (name.toList ++ rest).head?.any (· = '/') = false := by
  simp only [isName, Bool.and_eq_true, decide_eq_true_eq, List.all_eq_true] at named
  cases letters : name.toList with
  | nil => exact absurd (String.toList_eq_nil_iff.mp letters) named.1
  | cons c tail =>
    have letter : nameChar c = true := named.2 c (by rw [letters]; exact List.mem_cons_self)
    refine decide_eq_false ?_
    rintro rfl
    exact absurd letter (by decide)

/-- What follows a name in a tag is no part of it. -/
theorem stop_attributes (attributes : List (String × String)) {rest : List Char}
    (stop : rest.head?.any nameChar = false) :
    (attributeChars attributes ++ rest).head?.any nameChar = false := by
  rcases attributes with _ | ⟨pair, others⟩
  · exact stop
  · rfl

/-- A tag is read back, whatever follows. -/
theorem readTag_append {tag : Tag} (named : isNamed tag = true) (rest : List Char) :
    readTag (tag.chars ++ rest) = some (tag, rest) := by
  obtain ⟨named, pairs⟩ := Bool.and_eq_true_iff.mp named
  have pairs : ∀ pair ∈ tag.attributes, isName pair.1 = true := List.all_eq_true.mp pairs
  cases tag with
  | empty word attributes =>
    have named : isName word = true := named
    have text : (Tag.empty word attributes).chars ++ rest
        = '<' :: (word.toList ++ (attributeChars attributes ++ '/' :: '>' :: rest)) := by
      simp [Tag.chars]
    rw [text]
    refine (bind_of_reads (Scan.char_cons '<')).trans ?_
    refine (bind_of_reads (Scan.peek_eq _ _)).trans ?_
    rw [head?_name named]
    refine (bind_of_reads (readName_append named (stop_attributes _ rfl))).trans ?_
    refine (bind_of_reads (many_readAttribute pairs rfl)).trans ?_
    refine (bind_of_reads (Scan.peek_eq _ _)).trans ?_
    refine (bind_of_reads (Scan.char_cons '/')).trans ?_
    exact bind_of_reads (Scan.char_cons '>')
  | opening word attributes =>
    have named : isName word = true := named
    have text : (Tag.opening word attributes).chars ++ rest
        = '<' :: (word.toList ++ (attributeChars attributes ++ '>' :: rest)) := by
      simp [Tag.chars]
    rw [text]
    refine (bind_of_reads (Scan.char_cons '<')).trans ?_
    refine (bind_of_reads (Scan.peek_eq _ _)).trans ?_
    rw [head?_name named]
    refine (bind_of_reads (readName_append named (stop_attributes _ rfl))).trans ?_
    refine (bind_of_reads (many_readAttribute pairs rfl)).trans ?_
    refine (bind_of_reads (Scan.peek_eq _ _)).trans ?_
    exact bind_of_reads (Scan.char_cons '>')
  | closing word =>
    have text : (Tag.closing word).chars ++ rest = '<' :: '/' :: (word.toList ++ '>' :: rest) := by
      simp [Tag.chars]
    rw [text]
    refine (bind_of_reads (Scan.char_cons '<')).trans ?_
    refine (bind_of_reads (Scan.peek_eq _ _)).trans ?_
    refine (bind_of_reads (Scan.char_cons '/')).trans ?_
    refine (bind_of_reads (readName_append named rfl)).trans ?_
    exact bind_of_reads (Scan.char_cons '>')

/-- The tags of a text that has nothing else. -/
def tags? (text : String) : Option (List Tag) :=
  (Scan.many (· = '<') readTag).whole? text.toList

theorem tags?_text {xml : Xml} (named : ∀ tag ∈ xml.tags, isNamed tag = true) :
    tags? xml.text = some xml.tags := by
  have starts : ∀ tag ∈ xml.tags, tag.chars.head?.any (· = '<') = true := by
    intro tag _
    cases tag <;> rfl
  have reads := Scan.many_flatMap starts (fun tag member => readTag_append (named tag member))
    (rfl : ([] : List Char).head?.any _ = false)
  rw [List.append_nil] at reads
  rw [tags?, text, String.toList_ofList, chars_eq]
  exact Scan.whole?_of_reads reads

/-! ### Elements -/

/-- Tags of which each that begins an element is followed by what is in the element and then by the
one that ends it. -/
inductive Balanced : List Tag → Prop
  | nil : Balanced []
  | empty (name : String) (attributes : List (String × String)) {rest : List Tag} :
    Balanced rest → Balanced (.empty name attributes :: rest)
  | element (name : String) (attributes : List (String × String)) {content rest : List Tag} :
    Balanced content → Balanced rest →
      Balanced (.opening name attributes :: content ++ .closing name :: rest)

mutual

theorem balanced_tags_append : ∀ (xml : Xml) {rest : List Tag}, Balanced rest →
    Balanced (xml.tags ++ rest)
  | .empty name attributes, _, balanced => .empty name attributes balanced
  | .element name attributes children, rest, balanced => by
    have content := balanced_tagsAll children
    simpa [tags] using Balanced.element name attributes content balanced

theorem balanced_tagsAll : ∀ xmls : List Xml, Balanced (tagsAll xmls)
  | [] => .nil
  | xml :: rest => balanced_tags_append xml (balanced_tagsAll rest)

end

/-- What is opened is closed in order. -/
theorem balanced_tags (xml : Xml) : Balanced xml.tags := by
  simpa using balanced_tags_append xml .nil

/-- An element that has been begun, with what came before it. -/
structure Begun where
  name : String
  attributes : List (String × String)
  before : List Xml

/-- The elements that tags make up. What is finished already is given from the last one down, and
what has been begun from the innermost out. -/
def build? : List Begun → List Xml → List Tag → Option (List Xml)
  | [], finished, [] => some finished.reverse
  | _ :: _, _, [] => none
  | begun, finished, .empty name attributes :: rest =>
    build? begun (.empty name attributes :: finished) rest
  | begun, finished, .opening name attributes :: rest =>
    build? (⟨name, attributes, finished⟩ :: begun) [] rest
  | inner :: outer, finished, .closing name :: rest =>
    if name = inner.name then
      build? outer (.element name inner.attributes finished.reverse :: inner.before) rest
    else none
  | [], _, .closing _ :: _ => none

mutual

theorem build?_tags : ∀ (xml : Xml) (begun : List Begun) (finished : List Xml) (rest : List Tag),
    build? begun finished (xml.tags ++ rest) = build? begun (xml :: finished) rest
  | .empty name attributes, _, _, _ => by simp [tags, build?]
  | .element name attributes children, begun, finished, rest => by
    have content := build?_tagsAll children (⟨name, attributes, finished⟩ :: begun) []
      (.closing name :: rest)
    simp [tags, build?, content]

theorem build?_tagsAll : ∀ (xmls : List Xml) (begun : List Begun) (finished : List Xml)
    (rest : List Tag),
    build? begun finished (tagsAll xmls ++ rest) = build? begun (xmls.reverse ++ finished) rest
  | [], _, _, _ => rfl
  | xml :: others, begun, finished, rest => by
    rw [tagsAll, List.append_assoc, build?_tags xml, build?_tagsAll others]
    simp

end

/-- The one element that a text is. -/
def read? (text : String) : Option Xml := do
  match build? [] [] (← tags? text) with
  | some [xml] => some xml
  | _ => none

/-- **An element is read back from its text.** -/
theorem read?_text {xml : Xml} (named : ∀ tag ∈ xml.tags, isNamed tag = true) :
    read? xml.text = some xml := by
  have built := build?_tags xml [] [] []
  rw [List.append_nil] at built
  simp [read?, tags?_text named, built, build?]

end Xml

end Sift
