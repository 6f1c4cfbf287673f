-- Localized date formats: which parts a date has in a locale, in what order,
-- and how each is written.
import CiteStyle.Locale.Term

namespace CiteStyle

/-! ## Names -/

/-- The two date formats of a locale. -/
inductive DateForm where
  | text
  | numeric
  deriving DecidableEq, Repr

/-- The date form that a name stands for. -/
def DateForm.ofName : String → Except LocaleFault DateForm
  | "text" => .ok .text
  | "numeric" => .ok .numeric
  | name => .error (.unknownDateForm name)

/-- The name of a date form. -/
def DateForm.name : DateForm → String
  | .text => "text"
  | .numeric => "numeric"

/-- The components of a date, from the most significant on. -/
inductive DateComponent where
  | year
  | month
  | day
  deriving DecidableEq, Repr

namespace DateComponent

/-- Where a component stands in a list of year, month and day. -/
def index : DateComponent → Nat
  | .year => 0
  | .month => 1
  | .day => 2

/-- The component that a name stands for. -/
def ofName : String → Except LocaleFault DateComponent
  | "year" => .ok .year
  | "month" => .ok .month
  | "day" => .ok .day
  | name => .error (.unknownDatePart name)

/-- The name of a component. -/
def name : DateComponent → String
  | .year => "year"
  | .month => "month"
  | .day => "day"

end DateComponent

/-! ## Formats -/

/-- How one component is written in a localized date format. -/
structure DateTemplate where
  component : DateComponent
  form : Option String := none
  /-- The text in front of the component. -/
  before : Option String := none
  /-- The text behind the component. -/
  behind : Option String := none
  textCase : Option String := none
  stripPeriods : Bool := false
  rangeDelimiter : Option String := none
  deriving DecidableEq, Repr

end CiteStyle
