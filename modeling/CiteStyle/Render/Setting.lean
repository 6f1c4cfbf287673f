-- What rendering goes by: the record, the locale and the cite, which stay the
-- same, and the variables in them.
import CiteStyle.Cite
import CiteStyle.Pages.RangeFormat
import CiteStyle.Record.Basic
import CiteStyle.Style.Element

namespace CiteStyle

/-! ## Settings -/

/-- What stays the same while elements are rendered. -/
structure Setting where
  record : Record
  locale : Locale
  cite : Cite := {}
  nameOptions : NameOptions := {}
  macros : Macros := []
  /-- The number of macros that may call each other in a chain. -/
  callDepth : Nat := 0
  rangeFormat : Option Pages.RangeFormat := none
  /-- The locale in which a date is read when the own locale does not read it. Without it no
  text is read as a date. -/
  fallback : Option Locale := none

/-- The value of a variable. -/
inductive Value where
  | text (text : String)
  | date (date : Date)
  | names (names : List Name)
  deriving DecidableEq, Repr

namespace Setting

/-! ## Variables -/

/-- The variables that have a short form under a name of its own. -/
def shortened : List String := ["title", "container-title", "collection-title"]

/-- The text of a variable in a record, in its short form if that is asked for and there. -/
def recordText? (s : Setting) (short : Bool) (name : String) : Option String :=
  if short && shortened.contains name then
    (s.record.text? (name ++ "-short")).or (s.record.text? name)
  else s.record.text? name

/-- The text of a variable that is not suppressed. A locator of the cite hides that of the
record. -/
def text? (s : Setting) (suppressed : List String) (short : Bool) (name : String) :
    Option String :=
  if suppressed.contains name then none
  else match s.cite.locator with
    | some locator =>
      if name = "locator" then Text.nonEmpty? (some locator) else s.recordText? short name
    | none => s.recordText? short name

/-- The date of a variable that is not suppressed. -/
def date? (s : Setting) (suppressed : List String) (name : String) : Option Date :=
  if suppressed.contains name then none else s.record.date? name

/-- The names of a variable that is not suppressed. -/
def names? (s : Setting) (suppressed : List String) (name : String) : Option (List Name) :=
  if suppressed.contains name then none else s.record.names? name

/-- The value of a variable that is not suppressed: a text, or else a date, or else names. -/
def value? (s : Setting) (suppressed : List String) (name : String) : Option Value :=
  ((s.text? suppressed false name).map Value.text).or
    (((s.date? suppressed name).map Value.date).or ((s.names? suppressed name).map Value.names))

/-! ## Terms -/

/-- A term of the locale in its long form and in the singular. -/
def word? (s : Setting) (name : String) : Option String := s.locale.term? name .long false

end Setting

end CiteStyle
