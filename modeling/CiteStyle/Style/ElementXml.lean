-- Reading the elements of a style from XML. A fault stops the reading; an
-- element that is not known is passed over.
import CiteStyle.Style.Element

namespace CiteStyle

/-! ## Attributes -/

/-- The value of an attribute that an element has to have. -/
def required (e : Xml.Element) (name : String) : Except StyleFault String :=
  match e.nonEmptyAttr? name with
  | some value => .ok value
  | none => .error (.missingAttribute e.name name)

/-- The form of a term that an element asks for. -/
def termFormOf (e : Xml.Element) : Except StyleFault TermForm :=
  match e.attr? "form" with
  | none => .ok .long
  | some form => (TermForm.ofName form).mapError fun _ => .unknownTermForm form

/-! ## Text, numbers and labels -/

/-- The source of a text: a variable, a macro, a term or a value, whichever is there first. -/
def TextSource.ofXml (e : Xml.Element) : Except StyleFault TextSource :=
  match e.nonEmptyAttr? "variable", e.nonEmptyAttr? "macro", e.nonEmptyAttr? "term",
    e.attr? "value" with
  | some name, _, _, _ => .ok (.ofVariable name (e.attr? "form" == some "short"))
  | none, some name, _, _ => .ok (.call name)
  | none, none, some name, _ => return .term name (← termFormOf e) (e.flag "plural")
  | none, none, none, some text => .ok (.value text)
  | none, none, none, none => .error (.missingAttribute e.name "variable")

/-- A text element. -/
def TextElement.ofXml (e : Xml.Element) : Except StyleFault TextElement :=
  return { source := ← TextSource.ofXml e, decoration := .ofXml e }

/-- The form of a number element. -/
def NumberForm.ofXml (e : Xml.Element) : NumberForm :=
  match e.attr? "form" with
  | some "ordinal" => .ordinal
  | some "long-ordinal" => .longOrdinal
  | some "roman" => .roman
  | _ => .numeric

/-- A number element. -/
def NumberElement.ofXml (e : Xml.Element) : Except StyleFault NumberElement :=
  return {
    subject := ← required e "variable"
    form := .ofXml e
    decoration := (Decoration.ofXml e).unstripped }

/-- When the label of an element is in the plural. -/
def Plural.ofXml (e : Xml.Element) : Plural :=
  match e.attr? "plural" with
  | some "always" => .always
  | some "never" => .never
  | _ => .contextual

/-- A label with its variable, if it has one of its own. -/
def LabelElement.ofXml (subject : Option String) (e : Xml.Element) :
    Except StyleFault LabelElement :=
  return { subject, form := ← termFormOf e, plural := .ofXml e,
           decoration := (Decoration.ofXml e).inline }

/-! ## Names -/

/-- The form of a list of names. -/
def NameForm.ofXml (e : Xml.Element) : NameForm :=
  match e.attr? "form" with
  | some "short" => .short
  | some "count" => .count
  | _ => .long

/-- How the parts of a name are written, each given at most once. -/
structure NameParts where
  family : Option Decoration := none
  given : Option Decoration := none

/-- Take in one more part of a name. -/
def NameParts.add (parts : NameParts) (e : Xml.Element) : Except StyleFault NameParts := do
  let name ← required e "name"
  match name with
  | "family" =>
    if parts.family.isSome then .error (.duplicateNamePart name)
    else .ok { parts with family := some (.ofXml e) }
  | "given" =>
    if parts.given.isSome then .error (.duplicateNamePart name)
    else .ok { parts with given := some (.ofXml e) }
  | _ => .error (.unknownNamePart name)

/-- How a list of names is written. -/
def NameFormat.ofXml (e : Xml.Element) : Except StyleFault NameFormat := do
  let parts ← (e.children.filter (·.name = "name-part")).foldlM NameParts.add {}
  return {
    form := .ofXml e
    delimiter := (e.attr? "delimiter").getD ", "
    options := ← NameOptions.ofXml e
    family := parts.family.getD {}
    given := parts.given.getD {}
    decoration := (Decoration.ofXml e).outer.inline }

/-- What the children of a names element say about its lists. -/
structure NamesChildren where
  name : Option NameFormat := none
  label : Option LabelElement := none
  labelFirst : Bool := false

/-- Take in one more child of a names element. The last name format counts, and the first
label. -/
def NamesChildren.add (found : NamesChildren) (e : Xml.Element) :
    Except StyleFault NamesChildren := do
  match e.name, found.label with
  | "name", _ => return { found with name := some (← NameFormat.ofXml e) }
  | "label", none =>
    return { found with label := some (← LabelElement.ofXml none e),
                        labelFirst := found.name.isNone }
  | _, _ => return found

/-- How the lists of a names element are written. -/
def NamesFormat.ofXml (e : Xml.Element) : Except StyleFault NamesFormat := do
  let found ← e.children.foldlM NamesChildren.add {}
  return {
    name := found.name.getD {}
    label := found.label
    labelFirst := found.labelFirst
    delimiter := (e.attr? "delimiter").getD ""
    decoration := (Decoration.ofXml e).outer }

/-! ## Dates -/

/-- A component of a date. -/
def DatePart.ofXml (e : Xml.Element) : Except StyleFault DatePart := do
  let name ← required e "name"
  let component ← (DateComponent.ofName name).mapError fun _ => .unknownDatePart name
  return {
    component
    form := (e.attr? "form").bind DatePartForm.ofName?
    decoration := (Decoration.ofXml e).inline
    rangeDelimiter := e.attr? "range-delimiter" }

/-- Take in one more component of a date. -/
def addDatePart (parts : List DatePart) (e : Xml.Element) : Except StyleFault (List DatePart) := do
  let part ← DatePart.ofXml e
  if parts.any (·.component = part.component) then .error (.duplicateDatePart part.component.name)
  else .ok (parts ++ [part])

/-- The least significant component that a date element shows. -/
def precisionOf (e : Xml.Element) : DateComponent :=
  match e.attr? "date-parts" with
  | some "year" => .year
  | some "year-month" => .month
  | _ => .day

/-- A date element. -/
def DateElement.ofXml (e : Xml.Element) : Except StyleFault DateElement := do
  let subject ← required e "variable"
  let parts ← (e.children.filter (·.name = "date-part")).foldlM addDatePart []
  return {
    subject
    form := (e.attr? "form").bind fun name => (DateForm.ofName name).toOption
    precision := precisionOf e
    parts
    decoration := (Decoration.ofXml e).unstripped }

/-! ## Choices -/

/-- How many tests of a condition have to hold. -/
def Match.ofXml (e : Xml.Element) : Except StyleFault Match :=
  match e.attr? "match" with
  | .none => .ok .all
  | some "all" => .ok .all
  | some "any" => .ok .any
  | some "none" => .ok .none
  | some value => .error (.unknownMatch value)

/-- The tests of a branch. -/
def Condition.ofXml (e : Xml.Element) : Except StyleFault Condition :=
  return {
    types := e.attrWords "type"
    present := e.attrWords "variable"
    numeric := e.attrWords "is-numeric"
    numbers := e.attrWords "number"
    positions := e.attrWords "position"
    uncertain := e.attrWords "is-uncertain-date"
    mode := ← Match.ofXml e }

/-- How far a choice is read. -/
inductive ChoicePlace where
  | start
  | afterCondition
  | afterElse
  deriving DecidableEq, Repr

/-- Where a branch of a name leads: conditional branches come first, of which the first is
an if and no other, and then at most one else. -/
def ChoicePlace.next (place : ChoicePlace) (name : String) : Except StyleFault ChoicePlace :=
  match name, place with
  | "if", .start => .ok .afterCondition
  | "if", .afterCondition => .error .multipleIf
  | "if", .afterElse => .error (.elementAfterElse name)
  | "else-if", .start => .error .elseIfWithoutIf
  | "else-if", .afterCondition => .ok .afterCondition
  | "else-if", .afterElse => .error (.elementAfterElse name)
  | "else", .afterElse => .error .multipleElse
  | "else", _ => .ok .afterElse
  | _, _ => .error (.unknownConditional name)

/-- The condition of a branch; the one that ends a choice has none. -/
def ChoicePlace.condition (place : ChoicePlace) (e : Xml.Element) :
    Except StyleFault (Option Condition) :=
  match place with
  | .afterElse => .ok none
  | _ => some <$> Condition.ofXml e

/-! ## Elements -/

namespace Element

mutual
/-- Read an element; nothing if it is not known. -/
def ofXml : Xml.Element → Except StyleFault (Option Element)
  | e@⟨name, _, _, children⟩ =>
    match name with
    | "text" => return some (.text (← TextElement.ofXml e))
    | "date" => return some (.date (← DateElement.ofXml e))
    | "names" => do
      let subjects ← required e "variable"
      let format ← NamesFormat.ofXml e
      return some (.names (Text.words subjects) format (← substituteOf format children))
    | "label" => do
      let subject ← required e "variable"
      return some (.label (← LabelElement.ofXml (some subject) e))
    | "group" =>
      return some (.group ((e.attr? "delimiter").getD "") (Decoration.ofXml e).outer
        (← listOfXml children))
    | "number" => return some (.number (← NumberElement.ofXml e))
    | "choose" => return some (.choose (← branchesOf .start children))
    | _ => return none

/-- Read the elements of a list. -/
def listOfXml : List Xml.Element → Except StyleFault (List Element)
  | [] => return []
  | e :: rest => do
    let first ← ofXml e
    return first.toList ++ (← listOfXml rest)

/-- Read the branches of a choice. -/
def branchesOf (place : ChoicePlace) : List Xml.Element → Except StyleFault (List Branch)
  | [] => return []
  | e@⟨name, _, _, children⟩ :: rest => do
    let place ← place.next name
    let branch := Branch.mk (← place.condition e) (← listOfXml children)
    return branch :: (← branchesOf place rest)

/-- Read what stands in the place of names, from the first substitute among the children of
their element. -/
def substituteOf (format : NamesFormat) : List Xml.Element → Except StyleFault (List Element)
  | [] => return []
  | ⟨name, _, _, children⟩ :: rest =>
    if name = "substitute" then candidatesOf format children else substituteOf format rest

/-- Read the candidates of a substitute. Names among them are written as those for which
they stand in. -/
def candidatesOf (format : NamesFormat) : List Xml.Element → Except StyleFault (List Element)
  | [] => return []
  | e :: rest => do
    let first ← if e.name = "names" then do
        let subjects ← required e "variable"
        pure (some (Element.names (Text.words subjects) format []))
      else ofXml e
    return first.toList ++ (← candidatesOf format rest)
end

end Element

end CiteStyle
