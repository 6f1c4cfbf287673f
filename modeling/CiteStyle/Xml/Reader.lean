-- Reading an XML document into its root element. Tags have to match, prefixes
-- have to be declared, and the only references are to characters and to the
-- five predefined entities.
import CiteStyle.Json.Reader
import CiteStyle.Xml.Element
import CiteStyle.Xml.Token

namespace CiteStyle.Xml

open Text

/-! ## References -/

/-- The character of an entity name. -/
def entity? (name : List Char) : Option Char :=
  match String.ofList name with
  | "quot" => some '"'
  | "amp" => some '&'
  | "apos" => some '\''
  | "lt" => some '<'
  | "gt" => some '>'
  | _ => none

/-- The number that digits denote in base sixteen. -/
def hexNumber? (digits : List Char) : Option Nat :=
  if digits.isEmpty then none
  else digits.foldlM (fun n c => (Json.hexValue? c).map (16 * n + ·)) 0

/-- The character of a number. A number that is no character stands for the replacement
character; one of more than 32 bits stands for none. -/
def numbered? (n : Nat) : Option Char :=
  if n > maxUnsigned32 then none
  else
    let c := if n.isValidChar then Char.ofNat n else '\ufffd'
    if isXmlChar c then some c else none

/-- The character of a reference, given what stands between its marks. -/
def reference? (body : List Char) : Option Char :=
  match body with
  | '#' :: 'x' :: digits => (hexNumber? digits).bind numbered?
  | '#' :: digits => (readDigits? digits).bind numbered?
  | name => entity? name

/-- A piece of character data: a stretch without references, or the character of a
reference. -/
inductive Piece where
  | stretch (text : List Char)
  | reference (c : Char)
  deriving DecidableEq, Repr

/-- The pieces of character data; nothing if a reference is malformed. Stretches are as long as
they can be. -/
def pieces? (cs : List Char) : Option (List Piece) :=
  match cs with
  | [] => some []
  | '&' :: rest =>
    if (rest.dropWhile (· != ';')).isEmpty then none
    else do
      let c ← reference? (rest.takeWhile (· != ';'))
      return .reference c :: (← pieces? (rest.dropWhile (· != ';')).tail)
  | c :: rest => do
    let after ← pieces? (rest.dropWhile (· != '&'))
    return .stretch (c :: rest.takeWhile (· != '&')) :: after
termination_by cs.length
decreasing_by
  · have := (List.dropWhile_sublist (· != ';') (l := rest)).length_le
    simp
    omega
  · have := (List.dropWhile_sublist (· != '&') (l := rest)).length_le
    simp
    omega

/-! ## Line ends -/

/-- Every line end is a single newline. A carriage return at the very end may be kept. -/
def unifyLines (keepsLast : Bool) : List Char → List Char
  | [] => []
  | ['\r'] => if keepsLast then ['\r'] else ['\n']
  | '\r' :: '\n' :: rest => '\n' :: unifyLines keepsLast rest
  | '\r' :: rest => '\n' :: unifyLines keepsLast rest
  | c :: rest => c :: unifyLines keepsLast rest

/-- The text of the pieces of character data; `follows` says that a reference stands in front of
them. A carriage return right in front of a reference is kept, and so is one that is all there
is between a reference and the end. -/
def dataText (follows : Bool) : List Piece → List Char
  | [] => []
  | .reference c :: rest => c :: dataText true rest
  | .stretch text :: rest =>
    unifyLines (!rest.isEmpty || (follows && text = ['\r'])) text ++ dataText false rest

/-- Line ends and tabs are spaces, as in the value of an attribute. -/
def flattenLines (cs : List Char) : List Char :=
  (unifyLines false cs).map fun c => if c == '\n' || c == '\t' then ' ' else c

/-- The text of the pieces of the value of an attribute. -/
def valueText (pieces : List Piece) : List Char :=
  pieces.flatMap fun
    | .reference c => [c]
    | .stretch text => flattenLines text

/-! ## Namespaces -/

/-- The namespace of the prefix xml. -/
def xmlSpace : String := "http://www.w3.org/XML/1998/namespace"

/-- The namespace of declarations, which nothing may be bound to. -/
def xmlnsSpace : String := "http://www.w3.org/2000/xmlns/"

/-- The declared prefixes and their namespaces, the innermost first. The empty prefix is the
default namespace. -/
abbrev Spaces := List (List Char × String)

/-- An attribute with its value. -/
structure Attribute where
  name : QName
  value : String

/-- The value of an attribute. -/
def Attribute.ofRaw? (a : RawAttribute) : Option Attribute :=
  (pieces? a.value).map fun pieces => ⟨a.name, String.ofList (valueText pieces)⟩

/-- The attribute declares a namespace. -/
def Attribute.declares (a : Attribute) : Bool :=
  a.name.space == "xmlns".toList || a.name.localName == "xmlns".toList

/-- The declarations among some attributes in front of those that hold already; `own` are
those of the same element so far. Nothing if one of them is not allowed. -/
def declare? (spaces : Spaces) : List (List Char) → List Attribute → Option Spaces
  | _, [] => some spaces
  | own, a :: rest =>
    let name := a.name.localName
    if a.value = xmlnsSpace then none
    else if a.name.space = "xmlns".toList then
      if name = "xml".toList then
        if a.value = xmlSpace then declare? spaces own rest else none
      else if a.value = xmlSpace || own.contains name then none
      else (declare? spaces (name :: own) rest).map ((name, a.value) :: ·)
    else if a.value = xmlSpace then none
    else (declare? spaces own rest).map (([], a.value) :: ·)

/-- The namespace of the prefix of an element; nothing if it is not declared. -/
def spaceOf? (spaces : Spaces) (space : List Char) : Option (Option String) :=
  if space = [] then some (spaces.lookup []) else (spaces.lookup space).map some

/-- The namespace of the prefix of an attribute; nothing if it is not declared. An attribute
without a prefix has no namespace, and the prefix xml is always declared. -/
def attributeSpaceOf? (spaces : Spaces) (space : List Char) : Option (Option String) :=
  if space = [] then some none
  else if space = "xml".toList then some (some xmlSpace)
  else (spaces.lookup space).map some

/-- The attributes that declare no namespace, each with its namespace; nothing if a prefix is
not declared. -/
def placed? (spaces : Spaces) (attributes : List Attribute) :
    Option (List ((Option String × List Char) × String)) :=
  (attributes.filter (!·.declares)).mapM fun a => do
    return ((← attributeSpaceOf? spaces a.name.space, a.name.localName), a.value)

/-- No attribute stands twice. -/
def allDistinct : List (Option String × List Char) → Bool
  | [] => true
  | a :: rest => !rest.contains a && allDistinct rest

/-! ## Building elements -/

/-- An element whose end tag has not come yet, with its children last first. -/
structure OpenElement where
  name : QName
  attributes : List (String × String)
  spaces : Spaces
  /-- The text at the start, if nothing else came before it. -/
  text : Option (List Char)
  /-- Something other than text has come. -/
  begun : Bool
  children : List Element

/-- The document so far: the open elements, the innermost first, and the root if it is
closed. -/
structure Building where
  stack : List OpenElement
  root : Option Element

namespace OpenElement

/-- Add text. Only text at the start is kept. -/
def addText (e : OpenElement) (text : List Char) : OpenElement :=
  if e.begun then e else { e with text := some (e.text.getD [] ++ text) }

/-- Add a child element. -/
def addChild (e : OpenElement) (child : Element) : OpenElement :=
  { e with begun := true, children := child :: e.children }

/-- The element, once its end has come. -/
def close (e : OpenElement) : Element :=
  ⟨String.ofList e.name.localName, e.attributes, e.text.map String.ofList,
    e.children.reverse⟩

end OpenElement

namespace Building

/-- Put a finished element where it belongs. -/
def put? (b : Building) (e : Element) : Option Building :=
  match b.stack with
  | parent :: outer => some { b with stack := parent.addChild e :: outer }
  | [] => if b.root.isSome then none else some ⟨[], some e⟩

/-- The start of an element. -/
def open? (b : Building) (name : QName) (raw : List RawAttribute) : Option OpenElement := do
  let outer : Spaces := (b.stack.head?.map (·.spaces)).getD []
  guard (name.space != "xmlns".toList && (!b.stack.isEmpty || b.root.isNone))
  let attributes ← raw.mapM Attribute.ofRaw?
  let spaces ← declare? outer [] (attributes.filter (·.declares))
  let placed ← placed? spaces attributes
  guard (allDistinct (placed.map (·.1)))
  let _ ← spaceOf? spaces name.space
  let plain := placed.filter (·.1.1.isNone)
  return ⟨name, plain.map fun a => (String.ofList a.1.2, a.2), spaces, none, false, []⟩

/-- Take in one token. -/
def add? (b : Building) : Token → Option Building
  | .start name attributes closed => do
    let e ← b.open? name attributes
    if closed then b.put? e.close else some { b with stack := e :: b.stack }
  | .stop name =>
    match b.stack with
    | e :: outer => if e.name = name then ({ b with stack := outer }).put? e.close else none
    | [] => none
  | .data text =>
    match b.stack with
    | e :: outer =>
      (pieces? text).map fun pieces =>
        { b with stack := e.addText (dataText false pieces) :: outer }
    | [] => if text.all isGap then some b else none
  | .verbatim text =>
    match b.stack with
    | e :: outer => some { b with stack := e.addText (unifyLines false text) :: outer }
    | [] => none
  | .remark =>
    match b.stack with
    | e :: outer => some { b with stack := { e with begun := true } :: outer }
    | [] => some b

end Building

/-- The root element of a document, if it is well formed. -/
def read? (text : String) : Option Element := do
  let b ← (← documentTokens? text).foldlM Building.add? ⟨[], none⟩
  if b.stack.isEmpty then b.root else none

end CiteStyle.Xml
