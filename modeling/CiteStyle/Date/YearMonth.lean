-- Dates from a year field and a month field. Either may hold a range with
-- dashes or a list with slashes. A list becomes a range only if its ends are
-- at most one year, or one month, apart.
import CiteStyle.Date.Basic
import CiteStyle.Locale.Months

namespace CiteStyle.Date.YearMonth

open Text

/-! ## Months -/

/-- The number of a month: digits as they are, or a name that one of the tables knows. -/
def month? (tables : List MonthNames) (text : String) : Option Nat :=
  if text = "" then none
  else if text.toList.all isDigit then readNat? maxUnsigned32 text.toList
  else tables.findSome? (·.find? text)

/-- A number of 32 bits, read with a sign. -/
def withSign (n : Nat) : Int := if n ≤ maxSigned32 then n else (n : Int) - 4294967296

/-! ## Single dates -/

/-- The year of a text that has four characters or more, and whether it is approximate: the
text is a number, or text in front of four digits. -/
def year? (text : List Char) : Option (Int × Bool) :=
  if text.length < 4 then none
  else if isDigits text then (readInt? maxSigned32 text).map (·, false)
  else
    let digits := text.drop (text.length - 4)
    if isDigits digits then (readInt? maxSigned32 digits).map (·, 4 < text.length) else none

/-- A single date. -/
def single? (tables : List MonthNames) (year month : Option String) : Option Date := do
  let (y, circa) ← year? (← year).toList
  let parts := match month.bind (month? tables) with
    | some m => [y, withSign m]
    | none => [y]
  return { Date.ofParts parts with circa }

/-! ## Ranges -/

/-- The non-empty texts between dashes. -/
def dashed (text : String) : List String :=
  ((splitWhere (fun c => c == '-' || c == '–') text.toList).filter (!·.isEmpty)).map
    String.ofList

/-- Two dates as one: from the first end of one to the last end of the other. -/
def join (d1 d2 : Option Date) : Option Date :=
  match d1, d2 with
  | none, d2 => d2
  | d1, none => d1
  | some d1, some d2 =>
    some { Date.ofRange (d1.parts.head?.getD []) (d2.parts.getLast?.getD []) with
           circa := d1.circa || d2.circa }

/-- A date in which the year or the month may be a range. A month does not count beside a
range of years. -/
def range? (tables : List MonthNames) (year month : Option String) : Option Date :=
  match (year.map dashed).getD [], (month.map dashed).getD [] with
  | first :: y :: ys, _ =>
    join (single? tables (some first) none)
      (single? tables (some ((y :: ys).getLast (by simp))) none)
  | _, first :: second :: _ =>
    join (single? tables year (some first)) (single? tables year (some second))
  | _, _ => single? tables year month

/-! ## Lists -/

/-- The texts between slashes. -/
def slashed (text : String) : List String :=
  (splitWhere (· == '/') text.toList).map String.ofList

/-- Two components are at most one apart. They have 32 bits, and so have their difference and its
size, which wrap around where they do not fit. -/
def isClose (a b : Int) : Bool := (Int32.ofInt b - Int32.ofInt a).abs ≤ 1

/-- The last end of one date and the first end of another are close in the component at
`index`. -/
def closeAt (index : Nat) (d1 d2 : Option Date) : Bool :=
  match d1.bind (·.parts.getLast?), d2.bind (·.parts.head?) with
  | some p, some q =>
    match p[index]?, q[index]? with
    | some a, some b => isClose a b
    | _, _ => false
  | _, _ => false

/-- The date of a year field and a month field. -/
def date? (tables : List MonthNames) (year month : Option String) : Option Date :=
  match (year.map slashed).getD [], (month.map slashed).getD [] with
  | first :: y :: ys, _ =>
    let d1 := range? tables (some first) none
    let d2 := range? tables (some ((y :: ys).getLast (by simp))) none
    if closeAt 0 d1 d2 then join d1 d2 else range? tables year month
  | _, first :: second :: _ =>
    let d1 := range? tables year (some first)
    let d2 := range? tables year (some second)
    if closeAt 1 d1 d2 then join d1 d2 else range? tables year month
  | _, _ => range? tables year month

end CiteStyle.Date.YearMonth
