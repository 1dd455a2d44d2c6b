/-
**XML elements and their text.**

* `escape` — text for an attribute: the five markup characters are replaced by their entities, and
  every other character stands for itself.
* `Xml.text` — the text of an element, without blanks.
-/

namespace Sift

/-- An element without content, closed where it opens, or one with content, possibly none. -/
inductive Xml where
  | empty (name : String) (attributes : List (String × String))
  | element (name : String) (attributes : List (String × String)) (children : List Xml)

namespace Xml

def escapeChar (c : Char) : List Char :=
  if c = '<' then "&lt;".toList
  else if c = '>' then "&gt;".toList
  else if c = '&' then "&amp;".toList
  else if c = '\'' then "&apos;".toList
  else if c = '"' then "&quot;".toList
  else [c]

def escape (value : List Char) : List Char :=
  value.flatMap escapeChar

/-- Attributes, each with a blank in front. -/
def attributeChars : List (String × String) → List Char
  | [] => []
  | (name, value) :: rest =>
    ' ' :: name.toList ++ '=' :: '"' :: escape value.toList ++ '"' :: attributeChars rest

mutual

/-- The characters of an element. -/
def chars : Xml → List Char
  | .empty name attributes => '<' :: name.toList ++ attributeChars attributes ++ ['/', '>']
  | .element name attributes children =>
    '<' :: name.toList ++ attributeChars attributes ++ '>' :: charsAll children ++
      '<' :: '/' :: name.toList ++ ['>']

def charsAll : List Xml → List Char
  | [] => []
  | xml :: rest => chars xml ++ charsAll rest

end

def text (xml : Xml) : String :=
  String.ofList xml.chars

end Xml

end Sift
