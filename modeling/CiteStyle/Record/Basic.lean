-- Bibliographic records: the fields of one work, as texts, dates and lists
-- of names. A look-up finds what is there and not empty.
import CiteStyle.Date.Basic
import CiteStyle.Entries
import CiteStyle.Name.Basic

namespace CiteStyle

/-- A bibliographic record. -/
structure Record where
  id : String := ""
  /-- The type of the work, such as book. -/
  type : String := ""
  texts : List (String × String) := []
  dates : List (String × Date) := []
  names : List (String × List Name) := []
  deriving Repr, Inhabited

namespace Record

/-! ## Setting fields -/

/-- Set a plain variable. -/
def setText (r : Record) (name value : String) : Record :=
  { r with texts := putEntry name value r.texts }

/-- Set a date. -/
def setDate (r : Record) (name : String) (date : Date) : Record :=
  { r with dates := putEntry name date r.dates }

/-- Set a list of names. -/
def setNames (r : Record) (name : String) (names : List Name) : Record :=
  { r with names := putEntry name names r.names }

/-! ## Looking fields up -/

/-- The plain variable of a name. -/
def text? (r : Record) (name : String) : Option String :=
  (r.texts.lookup name).filter (· ≠ "")

/-- The date of a name. -/
def date? (r : Record) (name : String) : Option Date :=
  (r.dates.lookup name).filter (!·.isEmpty)

/-- The list of names of a name. -/
def names? (r : Record) (name : String) : Option (List Name) :=
  (r.names.lookup name).filter (!·.isEmpty)

/-- The language of the work. -/
def language? (r : Record) : Option String := r.text? "language"

end Record

end CiteStyle
