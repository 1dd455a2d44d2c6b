/-
**Restrictions as XML.**

`Restriction.xml` is the element that a search carries. The namespace of its parts is declared on
the first element within it.
-/

import Sift.Restriction.Basic
import Sift.Xml

namespace Sift

namespace Restriction

def messagesNamespace : String :=
  "http://schemas.microsoft.com/exchange/services/2006/messages"

def typesNamespace : String :=
  "http://schemas.microsoft.com/exchange/services/2006/types"

/-- The attribute that declares the namespace of the parts. -/
def declaration : List (String × String) := [("xmlns:t", typesNamespace)]

end Restriction

def FieldUri.toXml (field : FieldUri) : Xml :=
  match field.label with
  | some label => .empty "t:IndexedFieldURI" [("FieldURI", field.uri), ("FieldIndex", label)]
  | none => .empty "t:FieldURI" [("FieldURI", field.uri)]

def Literal.toXml (literal : Literal) : Xml :=
  .empty "t:Constant" [("Value", literal.text)]

namespace Restriction

mutual

/-- The element of a restriction, with further attributes in front of its own. -/
def toXml (attributes : List (String × String)) : Restriction → Xml
  | .and children => .element "t:And" attributes (toXmlAll children)
  | .or children => .element "t:Or" attributes (toXmlAll children)
  | .not child => .element "t:Not" attributes [toXml [] child]
  | .compare field comparison literal =>
    .element comparison.element attributes
      [field.toXml, .element "t:FieldURIOrConstant" [] [literal.toXml]]
  | .contains field mode casing literal =>
    .element "t:Contains"
      (attributes ++
        [("ContainmentMode", mode.word), ("ContainmentComparison", casing.word)])
      [field.toXml, literal.toXml]
  | .present field => .element "t:Exists" attributes [field.toXml]

def toXmlAll : List Restriction → List Xml
  | [] => []
  | child :: rest => toXml [] child :: toXmlAll rest

end

/-- The text of the element that a search carries. -/
def xml (restriction : Restriction) : String :=
  (Xml.element "m:Restriction" [("xmlns:m", messagesNamespace)]
    [restriction.toXml declaration]).text

end Restriction

end Sift
