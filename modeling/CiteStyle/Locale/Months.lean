-- Names of months. The table of a locale has the long and the short names in
-- lower case, the short ones without a period at the end.
import CiteStyle.Entries
import CiteStyle.Locale.Basic
import CiteStyle.Text.Case
import CiteStyle.Text.Integer

namespace CiteStyle

open Text

/-- The names of the months of a locale, with their numbers. -/
structure MonthNames where
  long : List (String × Nat) := []
  short : List (String × Nat) := []
  deriving DecidableEq, Repr

namespace MonthNames

/-- A text without periods at the end. -/
def dropPeriods (s : String) : String := String.ofList (dropEndWhile (· == '.') s.toList)

/-- The name of the term for a month. -/
def termName (month : Nat) : String := "month-" ++ String.ofList (paddedDigits 2 month)

/-- Add the names of one month. A name that stood for an earlier month now stands for
this one. -/
def addMonth (locale : Locale) (names : MonthNames) (month : Nat) : MonthNames :=
  let long := match locale.term? (termName month) .long false with
    | some name => putEntry (lower name) month names.long
    | none => names.long
  let short := match locale.term? (termName month) .short false with
    | some name => putEntry (lower (dropPeriods name)) month names.short
    | none => names.short
  ⟨long, short⟩

/-- The names of the months of a locale. -/
def ofLocale (locale : Locale) : MonthNames :=
  ((List.range 12).map (· + 1)).foldl (addMonth locale) {}

/-- The number of the month that a text names, whatever its case. A short name may have
periods at the end. -/
def find? (names : MonthNames) (text : String) : Option Nat :=
  let name := lower (trim text)
  (names.long.lookup name).or (names.short.lookup (dropPeriods name))

/-- There are no names. -/
def isEmpty (names : MonthNames) : Bool := names.long.isEmpty && names.short.isEmpty

end MonthNames

/-! ## Tables by language -/

/-- The tables that were built so far, by the tag of the locale. -/
abbrev MonthTables := List (String × MonthNames)

/-- The table of a locale, and the tables with it. The first locale with a tag decides on
the table of all that have this tag. -/
def MonthTables.table (tables : MonthTables) (locale : Locale) : MonthNames × MonthTables :=
  match tables.lookup locale.lang with
  | some names => (names, tables)
  | none =>
    let names := MonthNames.ofLocale locale
    (names, tables ++ [(locale.lang, names)])

end CiteStyle
