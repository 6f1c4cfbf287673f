-- How a page range is written: all digits of its last page, or only those
-- that a convention keeps.
import CiteStyle.Pages.Basic
import CiteStyle.Text.Cut

namespace CiteStyle.Pages

open Text

/-- The conventions for the last page of a range. -/
inductive RangeFormat where
  | chicago15
  | chicago16
  | expanded
  | minimal
  | minimalTwo
  deriving DecidableEq, Repr

namespace RangeFormat

/-- The convention that a name stands for. -/
def ofName? : String → Option RangeFormat
  | "chicago" => some .chicago15
  | "chicago-15" => some .chicago15
  | "chicago-16" => some .chicago16
  | "expanded" => some .expanded
  | "minimal" => some .minimal
  | "minimal-two" => some .minimalTwo
  | _ => none

/-- What is said of a name that stands for no convention. -/
def unknown (name : String) : String := "unknown page range format: " ++ name

/-- The name of a convention. -/
def name : RangeFormat → String
  | .chicago15 => "chicago-15"
  | .chicago16 => "chicago-16"
  | .expanded => "expanded"
  | .minimal => "minimal"
  | .minimalTwo => "minimal-two"

end RangeFormat

/-! ## Letters in front of a page -/

/-- The letters in front of a page; none if it starts with no letter or has nothing
else. -/
def letterPrefix (page : List Char) : List Char :=
  if page.all isAlphabetic then [] else page.takeWhile isAlphabetic

/-- The letters in front of two pages, if they are the same. -/
def sharedLetters? (first last : List Char) : Option (List Char) :=
  if letterPrefix first = letterPrefix last then some (letterPrefix first) else none

/-! ## Digits of the last page -/

/-- The last page with the digits that were left out put back from the first. -/
def expand (first last : List Char) : List Char :=
  match sharedLetters? first last with
  | none => last
  | some letters =>
    let digits := last.drop letters.length
    first.take (first.length - digits.length) ++ digits

/-- How many characters two texts share at the start. -/
def sharedLength : List Char → List Char → Nat
  | a :: as, b :: bs => if a = b then sharedLength as bs + 1 else 0
  | _, _ => 0

/-- The last page without what it shares with the first. -/
def dropShared (first last : List Char) : List Char := last.drop (sharedLength first last)

/-- The last page without what it shares with the first, but with the last two places
kept, and without zeros in front. -/
def dropSharedButTwo (first last : List Char) : List Char :=
  let shared := min (first.length - 2) (sharedLength first last)
  (last.drop shared).dropWhile (· == '0')

/-- The last page after the letters that it shares with the first, shortened if the
two numbers are such that `shortens` says so. -/
def shortenNumber (shortens : Nat → Nat → Bool) (first last : List Char) : List Char :=
  match sharedLetters? first last with
  | none => last
  | some letters =>
    let f := first.drop letters.length
    let l := last.drop letters.length
    match readNat? maxSigned64 f, readNat? maxSigned64 l with
    | some m, some n => letters ++ if shortens m n then dropSharedButTwo f l else l
    | _, _ => letters ++ l

/-- The 15th edition shortens above 100 unless a multiple of 100 comes first, and
keeps four digits when the hundreds change. -/
def chicago15Shortens (m n : Nat) : Bool :=
  !(m > 1000 && m ≤ 9999 && m / 100 != n / 100) && m > 100 && m % 100 > 0

/-- The 16th edition shortens above 100 unless a multiple of 100 comes first. -/
def chicago16Shortens (m _n : Nat) : Bool := m > 100 && m % 100 > 0

/-- The last page as a convention writes it, when it is as long as the first. -/
def RangeFormat.shorten (format : RangeFormat) (first last : List Char) : List Char :=
  match format with
  | .chicago15 => shortenNumber chicago15Shortens first last
  | .chicago16 => shortenNumber chicago16Shortens first last
  | .expanded => last
  | .minimal => dropShared first last
  | .minimalTwo => dropSharedButTwo first last

/-- The last page as a convention writes it. One longer than the first stays. -/
def RangeFormat.lastPage (format : RangeFormat) (first last : List Char) : List Char :=
  if first.length < last.length then last
  else if last.length < first.length then format.shorten first (expand first last)
  else format.shorten first last

/-! ## Ranges -/

/-- Write one range, with a delimiter between its pages. -/
def RangeFormat.format (format : RangeFormat) (delimiter : String) (r : Range) : String :=
  match r.ends with
  | none => replaceHyphens r.literal delimiter
  | some (first, last) =>
    if first = last then replaceHyphens r.literal delimiter
    else first ++ delimiter ++ String.ofList (format.lastPage first.toList last.toList)

/-- Write some ranges with commas between them. -/
def RangeFormat.formatAll (format : RangeFormat) (delimiter : String) (rs : List Range) :
    String :=
  String.intercalate ", " (rs.map (format.format delimiter))

end CiteStyle.Pages
