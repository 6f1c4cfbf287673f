-- Text cases: the ways in which a style changes the case of letters.
import CiteStyle.Text.Case
import CiteStyle.Text.Cut

namespace CiteStyle

open Text

/-- A change of the case of letters. -/
inductive TextCase where
  | lowercase
  | uppercase
  | capitalizeFirst
  | capitalizeAll
  | title
  deriving DecidableEq, Repr

namespace TextCase

/-- The text case that a name stands for. -/
def ofName? : String → Option TextCase
  | "lowercase" => some .lowercase
  | "uppercase" => some .uppercase
  | "capitalize-first" => some .capitalizeFirst
  | "capitalize-all" => some .capitalizeAll
  | "title" => some .title
  | _ => none

/-- The text with its first character in upper case. -/
def capitalize : List Char → List Char
  | [] => []
  | c :: rest => upperChar c ++ rest

/-- The text with every piece between single spaces capitalized. -/
def capitalizePieces (cs : List Char) : List Char :=
  [' '].intercalate ((splitWhere (· == ' ') cs).map capitalize)

/-! ## Title case -/

/-- A character that may stand in a word. -/
def continuesWord (c : Char) : Bool := startsWord c || isMark c || c == '\'' || c == '’'

/-- The words that a title keeps in lower case, unless one opens it. -/
def stopWords : List String :=
  ["a", "an", "and", "as", "at", "but", "by", "down", "for", "from", "in", "into", "nor", "of",
    "on", "onto", "or", "over", "so", "the", "till", "to", "up", "via", "with", "yet"]

/-- A word of a title; `opening` says that it is the first. A word with a capital letter
stays as it is. -/
def titleWord (opening : Bool) (word : List Char) : List Char :=
  if !word.any isUppercase && (opening || !stopWords.contains (String.ofList word)) then
    capitalize word
  else word

/-- The rest of a title, where `opening` says that no word came before. -/
def titleFrom (opening : Bool) (cs : List Char) : List Char :=
  match cs with
  | [] => []
  | c :: rest =>
    if startsWord c then
      titleWord opening (c :: rest.takeWhile continuesWord)
        ++ titleFrom false (rest.dropWhile continuesWord)
    else c :: titleFrom opening rest
termination_by cs.length
decreasing_by
  · have := (List.dropWhile_sublist continuesWord (l := rest)).length_le
    simp
    omega
  · simp

/-! ## Applying a text case -/

/-- Change the case of a text. Title case changes English text only. -/
def apply (textCase : TextCase) (english : Bool) (text : String) : String :=
  match textCase with
  | .lowercase => lower text
  | .uppercase => upper text
  | .capitalizeFirst => String.ofList (capitalize text.toList)
  | .capitalizeAll => String.ofList (capitalizePieces text.toList)
  | .title => if english then String.ofList (titleFrom true text.toList) else text

end TextCase

end CiteStyle
