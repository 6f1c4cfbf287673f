-- Dates of a record. A date is one or two lists of parts, or a literal, or a
-- text still to be read, or a season alone.
namespace CiteStyle

/-- A date as a record holds it. -/
structure Date where
  /-- One list of year, month and day for a single date, two for a range. -/
  parts : List (List Int) := []
  season : Option String := none
  literal : Option String := none
  /-- A text that is still to be read as a date. -/
  raw : Option String := none
  /-- The date is approximate. -/
  circa : Bool := false
  deriving DecidableEq, Repr, Inhabited

/-- The one representation of a date that counts. A single date has the same parts at both
ends. -/
inductive DateValue where
  | parts (first last : List Int)
  | literal (text : String)
  | raw (text : String)
  | season (text : String)
  deriving DecidableEq, Repr

namespace Date

/-- A single date. -/
def ofParts (parts : List Int) : Date := { parts := [parts] }

/-- A date from one end to another. -/
def ofRange (first last : List Int) : Date := { parts := [first, last] }

/-- A date that is written as it is. -/
def ofLiteral (text : String) : Date := { literal := some text }

/-- A date that is still to be read. -/
def ofRaw (text : String) : Date := { raw := some text }

/-- The value of a date: its parts if it has any, or else the literal, the text still to be
read, or the season. An empty list or text counts as absent. -/
def value (d : Date) : Option DateValue :=
  let filled := d.parts.filter (!·.isEmpty)
  match filled.head?, filled.getLast? with
  | some first, some last => some (.parts first last)
  | _, _ =>
    match d.literal.filter (· ≠ ""), d.raw.filter (· ≠ ""), d.season.filter (· ≠ "") with
    | some text, _, _ => some (.literal text)
    | none, some text, _ => some (.raw text)
    | none, none, some text => some (.season text)
    | none, none, none => none

/-- The date says nothing. -/
def isEmpty (d : Date) : Bool := d.value.isNone

/-- The date has two ends that differ. -/
def isRange (d : Date) : Bool :=
  match d.value with
  | some (.parts first last) => first != last
  | _ => false

/-- The year of the first end. -/
def year (d : Date) : Option Int :=
  match d.value with
  | some (.parts first _) => first.head?
  | _ => none

end Date

end CiteStyle
