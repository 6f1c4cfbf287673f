-- The ways in which people write dates: Feb. 27, 2023, 27 February 2023,
-- 2023-02-27, 2/27/23, 27.2.2023 and so on.
import CiteStyle.DateText.Scan
import CiteStyle.Locale.Months

namespace CiteStyle.DateText

open Text Scan

/-! ## What a pattern finds -/

/-- A year as it is written: with four digits or more, or with two. -/
inductive YearText where
  | long (digits : List Char)
  | short (digits : List Char)
  deriving DecidableEq, Repr

/-- A month as it is written. -/
inductive MonthText where
  | name (text : List Char)
  | number (digits : List Char)
  deriving DecidableEq, Repr

/-- The components of a date as they are written. -/
structure Found where
  year : YearText
  month : Option MonthText := none
  day : Option (List Char) := none
  deriving DecidableEq, Repr

/-! ## Components -/

/-- A day, in one digit or two. -/
def day : Scan (List Char) := span isDigit 1 2

/-- A month, in one digit or two. -/
def month : Scan MonthText := Scan.map .number (span isDigit 1 2)

/-- A year of four digits or more. It takes all digits, for no pattern goes on with a digit
after it. -/
def longYear : Scan YearText := Scan.map .long (whole isDigit 4)

/-- A year of two digits, with or without an apostrophe. -/
def shortYear : Scan YearText :=
  andThen (optional (char '\'')) fun _ => Scan.map .short (span isDigit 2 2)

/-- A year. -/
def year : Scan YearText := orElse longYear shortYear

/-- The ending of an English ordinal. -/
def ordinalEnding : Scan (List Char) :=
  oneOf (["th", "st", "nd", "rd"].map fun ending => word ending.toList)

/-- Names in the order in which they are tried: long ones first. -/
def byLength (names : List (String × Nat)) : List (List Char) :=
  ((names.map (·.1)).mergeSort fun a b => b.utf8ByteSize ≤ a.utf8ByteSize).map String.toList

/-- A short name of a month, with or without a period. -/
def shortName (name : List Char) : Scan (List Char) :=
  andThen (word name) fun text =>
    Scan.map (fun period => text ++ if period.isSome then ['.'] else []) (optional (char '.'))

/-- A name of a month. Long names come before short ones. -/
def monthName (names : MonthNames) : Scan MonthText :=
  Scan.map .name
    (oneOf ((byLength names.long).map word ++ (byLength names.short).map shortName))

/-! ## Patterns -/

/-- A mark, and then a component. -/
def after (mark : Char) (p : Scan α) : Scan α := andThen (char mark) fun _ => p

/-- February 27th, 2023 -/
def monthDayYear (names : MonthNames) : Scan Found :=
  andThen (monthName names) fun m => andThen (blanks 1) fun _ =>
  andThen day fun d => andThen (optional ordinalEnding) fun _ =>
  andThen (optional (andThen (blanks 0) fun _ => char ',')) fun _ =>
  andThen (blanks 1) fun _ => Scan.map (fun y => ⟨y, some m, some d⟩) year

/-- 27 February 2023, or February 2023 -/
def dayMonthYear (names : MonthNames) : Scan Found :=
  andThen (optional (andThen day fun d => andThen (optional (char '.')) fun _ =>
    Scan.map (fun _ => d) (blanks 1))) fun d =>
  andThen (monthName names) fun m => andThen (blanks 1) fun _ =>
  Scan.map (fun y => ⟨y, some m, d⟩) year

/-- A long year, a month and maybe a day, with a mark between them. -/
def yearMonthDay (mark : Char) (m : Scan MonthText) : Scan Found :=
  andThen longYear fun y => andThen (after mark m) fun m =>
  Scan.map (fun d => ⟨y, some m, d⟩) (optional (after mark day))

/-- 27-Feb-2023, or Feb-2023 -/
def hyphenedName (names : MonthNames) : Scan Found :=
  andThen (optional (andThen day fun d => Scan.map (fun _ => d) (char '-'))) fun d =>
  andThen (monthName names) fun m => Scan.map (fun y => ⟨y, some m, d⟩) (after '-' year)

/-- 02/27/23 -/
def slashedNumbers : Scan Found :=
  andThen month fun m => andThen (after '/' day) fun d =>
  Scan.map (fun y => ⟨y, some m, some d⟩) (after '/' year)

/-- 27/Feb/2023 -/
def slashedName (names : MonthNames) : Scan Found :=
  andThen day fun d => andThen (after '/' (monthName names)) fun m =>
  Scan.map (fun y => ⟨y, some m, some d⟩) (after '/' year)

/-- 27.02.2023 -/
def dottedNumbers : Scan Found :=
  andThen day fun d => andThen (after '.' (blanks 0)) fun _ =>
  andThen month fun m => andThen (after '.' (blanks 0)) fun _ =>
  Scan.map (fun y => ⟨y, some m, some d⟩) year

/-- 2023 -/
def yearAlone : Scan Found := Scan.map (fun y => ⟨y, none, none⟩) year

/-- A pattern, and whether its day and month stand in the order that is usual for numbers in
the locale. -/
structure Pattern where
  scan : Scan Found
  localOrder : Bool

/-- The patterns of a locale in the order in which they are tried. Those with the name of a
month are left out if the locale has no names. -/
def patterns (names : MonthNames) : List Pattern :=
  let named (p : Scan Found) : List Pattern := if names.isEmpty then [] else [⟨p, false⟩]
  named (monthDayYear names) ++ named (dayMonthYear names)
    ++ [⟨yearMonthDay '-' month, false⟩, ⟨yearMonthDay '.' month, true⟩]
    ++ named (yearMonthDay '-' (monthName names)) ++ named (hyphenedName names)
    ++ [⟨yearMonthDay '/' month, false⟩, ⟨slashedNumbers, true⟩]
    ++ named (slashedName names)
    ++ [⟨dottedNumbers, true⟩, ⟨yearAlone, false⟩]

end CiteStyle.DateText
