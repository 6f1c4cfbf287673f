-- Writing numbers: as ordinals, in words, or as roman numerals.
import CiteStyle.Numeric
import CiteStyle.Render.Setting

namespace CiteStyle

open Text

/-! ## Roman numerals -/

/-- The values of the letters and pairs of letters of a roman numeral. -/
def romanLetters : List (Nat × List Char) :=
  [(1000, ['m']), (900, ['c', 'm']), (500, ['d']), (400, ['c', 'd']), (100, ['c']),
   (90, ['x', 'c']), (50, ['l']), (40, ['x', 'l']), (10, ['x']), (9, ['i', 'x']), (5, ['v']),
   (4, ['i', 'v']), (1, ['i'])]

/-- A number in letters, each as often as it fits into what is left. -/
def romanFrom (n : Nat) : List (Nat × List Char) → List Char
  | [] => []
  | (value, letters) :: rest =>
    (List.replicate (n / value) letters).flatten ++ romanFrom (n % value) rest

/-- The roman numeral of a number from 1 to 3999. -/
def roman? (n : Nat) : Option String :=
  if 1 ≤ n && n < 4000 then some (String.ofList (romanFrom n romanLetters)) else none

/-! ## Ordinals -/

/-- A name that ends in a number of two digits or more. -/
def numberedName (stem : String) (n : Nat) : String :=
  stem ++ "-" ++ String.ofList (paddedDigits 2 n)

/-- The terms that may follow a number to make it an ordinal, the most specific first. -/
def ordinalTerms (n : Nat) : List String :=
  (if 11 ≤ n % 100 && n % 100 ≤ 13 then [numberedName "ordinal" (n % 100)] else [])
    ++ [numberedName "ordinal" (n % 10), "ordinal"]

/-- A number as an ordinal in digits. -/
def Locale.ordinal (locale : Locale) (n : Nat) : String :=
  let ending := (ordinalTerms n).findSome? fun name => locale.term? name .long false
  String.ofList (decimalDigits n) ++ ending.getD ""

/-- A number as an ordinal, up to ten in words. -/
def Locale.longOrdinal (locale : Locale) (n : Nat) : String :=
  if 1 ≤ n && n ≤ 10 then
    (locale.term? (numberedName "long-ordinal" n) .long false).getD (locale.ordinal n)
  else locale.ordinal n

/-! ## Numbers in a text -/

/-- A number of a text. One that is not a plain number of 32 bits stays as it is. -/
def NumberForm.write (form : NumberForm) (locale : Locale) (text : String) : String :=
  match form, readNat? maxUnsigned32 text.toList with
  | .ordinal, some n => locale.ordinal n
  | .longOrdinal, some n => locale.longOrdinal n
  | .roman, some n => (roman? n).getD text
  | _, _ => text

/-- A token of a text of numbers. -/
def NumberForm.writeToken (form : NumberForm) (locale : Locale) : Numeric.Token → String
  | .number text => form.write locale text
  | .separator ',' => ", "
  | .separator '&' => " & "
  | .separator c => c.toString

/-- A text, with the numbers in it in some form if it has nothing else but numbers. -/
def NumberForm.writeAll (form : NumberForm) (locale : Locale) (text : String) : Buffer :=
  if Numeric.isNumeric text then
    (Numeric.tokens text).flatMap fun token => Buffer.ofText .plain (form.writeToken locale token)
  else Buffer.ofText .plain text

end CiteStyle
