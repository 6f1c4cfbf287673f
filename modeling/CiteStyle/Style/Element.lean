-- The elements of a style, from which its layouts and macros are made.
import CiteStyle.Decoration
import CiteStyle.NameOptions

namespace CiteStyle

/-! ## Text and numbers -/

/-- Where the text of a text element comes from. -/
inductive TextSource where
  /-- A variable, in its short form if there is one and `short` asks for it. -/
  | ofVariable (name : String) (short : Bool)
  | call (macroName : String)
  | term (name : String) (form : TermForm) (plural : Bool)
  | value (text : String)
  deriving DecidableEq, Repr

/-- A text. -/
structure TextElement where
  source : TextSource
  decoration : Decoration
  deriving DecidableEq, Repr

/-- How the numbers in a text are written. -/
inductive NumberForm where
  | numeric
  | ordinal
  | longOrdinal
  | roman
  deriving DecidableEq, Repr

/-- A text whose numbers are written in some form. -/
structure NumberElement where
  subject : String
  form : NumberForm
  decoration : Decoration
  deriving DecidableEq, Repr

/-- When a label is in the plural. -/
inductive Plural where
  | contextual
  | always
  | never
  deriving DecidableEq, Repr

/-- The term that names a variable, such as pp. for pages. -/
structure LabelElement where
  /-- The variable, unless the label belongs to the names around it. -/
  subject : Option String
  form : TermForm
  plural : Plural
  decoration : Decoration
  deriving DecidableEq, Repr

/-! ## Names -/

/-- How much of each name is written; or only how many names there are. -/
inductive NameForm where
  | long
  | short
  | count
  deriving DecidableEq, Repr

/-- How a list of names is written. -/
structure NameFormat where
  form : NameForm := .long
  delimiter : String := ", "
  options : NameOptions := {}
  family : Decoration := {}
  given : Decoration := {}
  decoration : Decoration := {}
  deriving DecidableEq, Repr

/-- How the lists of names of one or more variables are written. -/
structure NamesFormat where
  name : NameFormat
  label : Option LabelElement
  /-- The label stands in front of the names. -/
  labelFirst : Bool
  delimiter : String
  decoration : Decoration
  deriving DecidableEq, Repr

/-! ## Dates -/

/-- How a component of a date is written. -/
inductive DatePartForm where
  | long
  | short
  | numeric
  | numericLeadingZeros
  | ordinal
  deriving DecidableEq, Repr

/-- The names of the forms. -/
def DatePartForm.names : List (String × DatePartForm) :=
  [("long", .long), ("short", .short), ("numeric", .numeric),
   ("numeric-leading-zeros", .numericLeadingZeros), ("ordinal", .ordinal)]

/-- The form that a name stands for. -/
def DatePartForm.ofName? (name : String) : Option DatePartForm := names.lookup name

/-- A component of a date as it is to be written. -/
structure DatePart where
  component : DateComponent
  form : Option DatePartForm
  decoration : Decoration
  /-- What stands between two dates that differ from this component on. -/
  rangeDelimiter : Option String
  deriving DecidableEq, Repr

/-- A date. -/
structure DateElement where
  subject : String
  /-- The format of the locale that is used, if any is. -/
  form : Option DateForm
  /-- The least significant component that is shown of a format of the locale. -/
  precision : DateComponent
  parts : List DatePart
  decoration : Decoration
  deriving DecidableEq, Repr

/-! ## Conditions -/

/-- How many tests of a condition have to hold. -/
inductive Match where
  | all
  | any
  | none
  deriving DecidableEq, Repr

/-- The tests of a branch. -/
structure Condition where
  types : List String
  present : List String
  numeric : List String
  numbers : List String
  positions : List String
  uncertain : List String
  mode : Match
  deriving DecidableEq, Repr

/-! ## Elements -/

mutual
/-- An element that renders something. -/
inductive Element where
  | text (e : TextElement)
  | number (e : NumberElement)
  | label (e : LabelElement)
  | date (e : DateElement)
  /-- Lists of names, and what stands in their place when they render nothing. -/
  | names (subjects : List String) (format : NamesFormat) (substitute : List Element)
  | group (delimiter : String) (decoration : Decoration) (children : List Element)
  | choose (branches : List Branch)

/-- A branch of a choice; without a condition it is always taken. -/
inductive Branch where
  | mk (condition : Option Condition) (children : List Element)
end

/-- The macros of a style, by name. -/
abbrev Macros := List (String × List Element)

end CiteStyle
