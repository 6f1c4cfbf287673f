-- Elements of an XML document, as far as a style needs them: names without
-- their namespaces, attributes without a namespace, child elements, and the
-- text at the start.
import CiteStyle.Text.Cut

namespace CiteStyle.Xml

/-- An element. -/
structure Element where
  name : String
  attributes : List (String × String)
  /-- The text in front of everything else in the element, if there is such text. -/
  text : Option String
  children : List Element
  deriving Repr, Inhabited

namespace Element

/-- The value of an attribute. -/
def attr? (e : Element) (name : String) : Option String := e.attributes.lookup name

/-- The value of an attribute as a truth value; only the text true is true. -/
def flag? (e : Element) (name : String) : Option Bool := (e.attr? name).map (· == "true")

/-- An attribute is there and true. -/
def flag (e : Element) (name : String) : Bool := (e.flag? name).getD false

/-- The value of an attribute that is there and not empty. -/
def nonEmptyAttr? (e : Element) (name : String) : Option String :=
  (e.attr? name).filter (· ≠ "")

/-- The words of an attribute. -/
def attrWords (e : Element) (name : String) : List String :=
  ((e.attr? name).map Text.words).getD []

/-- The first child element of a name. -/
def child? (e : Element) (name : String) : Option Element := e.children.find? (·.name = name)

end Element

end CiteStyle.Xml
