-- Records in JSON. Which fields are dates and which are lists of names is
-- fixed; all others are texts or numbers.
import CiteStyle.Date.Json
import CiteStyle.Name.Json
import CiteStyle.Record.Basic

namespace CiteStyle.Record

/-- The variables that hold a list of names. -/
def nameVariables : List String :=
  ["author", "chair", "collection-editor", "compiler", "composer", "container-author",
    "contributor", "curator", "director", "editor", "editorial-director", "editor-translator",
    "executive-producer", "guest", "host", "illustrator", "interviewer", "narrator", "organizer",
    "original-author", "performer", "producer", "recipient", "reviewed-author", "script-writer",
    "series-creator", "translator"]

/-- The variables that hold a date. -/
def dateVariables : List String :=
  ["accessed", "available-date", "container", "event-date", "issued", "original-date",
    "submitted"]

/-- Why a value is no record. -/
inductive Fault where
  /-- The value is no object, or holds a number that is too large. -/
  | notARecord
  | badId
  | badDate (field : String)
  | badNames (field : String)
  deriving DecidableEq, Repr

/-- What a fault of a field says. -/
def Fault.message : Fault → String
  | .notARecord => "not a record"
  | .badId => "expected string or number for id"
  | .badDate field => "invalid date in `" ++ field ++ "`"
  | .badNames field => "invalid names in `" ++ field ++ "`"

/-- The text of a field that holds a text or a number. -/
def scalarText? : Json → Option String
  | .text s => some s
  | .number n => n.value?.map Number.text
  | _ => none

/-- Set one field of a record. -/
def setField (r : Record) (field : String × Json) : Except Fault Record :=
  let (name, value) := field
  if name = "id" then
    match scalarText? value with
    | some id => .ok { r with id }
    | none => .error .badId
  else if name = "type" then .ok { r with type := (scalarText? value).getD "" }
  else if dateVariables.contains name then
    match Date.ofJson? value with
    | some date => .ok (r.setDate name date)
    | none => .error (.badDate name)
  else if nameVariables.contains name then
    match Name.listOfJson? value with
    | some names => .ok (r.setNames name names)
    | none => .error (.badNames name)
  else
    match scalarText? value with
    | some text => .ok (r.setText name text)
    | none => .ok r

/-- The record that a value writes. The first field at fault is told. -/
def ofJson (value : Json) : Except Fault Record :=
  match value.settled with
  | .object fields =>
    if value.isPlain .strict 0 then fields.foldlM setField {} else .error .notARecord
  | _ => .error .notARecord

end CiteStyle.Record
