-- Reading a date from free text, with the month names of a locale. The first
-- pattern that is found anywhere in the text decides.
import CiteStyle.DateText.Pattern
import CiteStyle.Text.Cut

namespace CiteStyle

open Text

/-- The components of a date that a text gives. -/
structure ReadDate where
  year : Option Int
  month : Option Nat
  day : Option Nat
  deriving DecidableEq, Repr

/-- Year, month and day up to the first that is missing. -/
def ReadDate.parts (d : ReadDate) : List Int :=
  match d.year, d.month, d.day with
  | none, _, _ => []
  | some y, none, _ => [y]
  | some y, some m, none => [y, (m : Int)]
  | some y, some m, some n => [y, (m : Int), (n : Int)]

/-- What it takes to read dates in a locale. -/
structure DateReader where
  months : MonthNames
  /-- In numbers the day comes before the month. -/
  dayFirst : Bool
  deriving DecidableEq, Repr

namespace DateReader

open DateText

/-- The reader of a locale. -/
def ofLocale (locale : Locale) : DateReader := ⟨.ofLocale locale, locale.dayBeforeMonth⟩

/-! ## From text to numbers -/

/-- The number of a year. One below 100 lies in this century. -/
def yearNumber (y : YearText) : Option Int :=
  let digits := match y with
    | .long digits => digits
    | .short digits => digits
  (readInt? maxSigned32 digits).map fun n => if n < 100 then n + 2000 else n

/-- The number of a month. -/
def monthNumber (reader : DateReader) : MonthText → Option Nat
  | .name text => reader.months.find? (String.ofList text)
  | .number digits => readNat? maxUnsigned32 digits

/-- Exchange month and day if the month is above 12 and the day is not. -/
def mend (d : ReadDate) : ReadDate :=
  if d.month.any (· > 12) && d.day.all (· ≤ 12) then { d with month := d.day, day := d.month }
  else d

/-- The date that a pattern found. -/
def toDate (reader : DateReader) (localOrder : Bool) (found : Found) : ReadDate :=
  let month := found.month.bind reader.monthNumber
  let day := found.day.bind (readNat? maxUnsigned32)
  let year := yearNumber found.year
  mend (if reader.dayFirst && localOrder then ⟨year, day, month⟩ else ⟨year, month, day⟩)

/-- The date of a text, if it has one. -/
def read? (reader : DateReader) (text : String) : Option ReadDate :=
  let cs := trimChars text.toList
  (patterns reader.months).findSome? fun pattern =>
    (pattern.scan.find? cs).map (reader.toDate pattern.localOrder)

end DateReader

/-! ## Readers by language -/

/-- The readers that were built so far, by the tag of the locale. -/
abbrev DateReaders := List (String × DateReader)

namespace DateReaders

/-- The reader of a locale, and the readers with it. The first locale with a tag decides on
the reader of all that have this tag. -/
def reader (readers : DateReaders) (locale : Locale) : DateReader × DateReaders :=
  match readers.lookup locale.lang with
  | some reader => (reader, readers)
  | none =>
    let reader := DateReader.ofLocale locale
    (reader, readers ++ [(locale.lang, reader)])

/-- The date of a text in the first locale that finds one. -/
def read? (readers : DateReaders) (text : String) : List Locale → Option ReadDate × DateReaders
  | [] => (none, readers)
  | locale :: rest =>
    let (reader, readers) := readers.reader locale
    match reader.read? text with
    | some date => (some date, readers)
    | none => read? readers text rest

end DateReaders

end CiteStyle
