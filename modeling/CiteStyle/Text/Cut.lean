-- Cutting text: trimming, splitting, replacing. The work is done on lists of
-- characters; the versions on strings wrap it.
import CiteStyle.Text.Character

namespace CiteStyle.Text

/-! ## Trimming -/

/-- Drop what satisfies a test from the end. -/
def dropEndWhile (p : α → Bool) (cs : List α) : List α :=
  (cs.reverse.dropWhile p).reverse

/-- Drop white space from both ends. -/
def trimChars (cs : List Char) : List Char := dropEndWhile isBlank (cs.dropWhile isBlank)

/-- Drop white space from both ends. -/
def trim (s : String) : String := String.ofList (trimChars s.toList)

/-- Drop white space from the start. -/
def trimStart (s : String) : String := String.ofList (s.toList.dropWhile isBlank)

/-! ## Splitting -/

/-- The pieces between the characters of a class; one more than there are such
characters. -/
def splitWhere (p : α → Bool) : List α → List (List α)
  | [] => [[]]
  | c :: rest =>
    if p c then [] :: splitWhere p rest
    else match splitWhere p rest with
      | [] => [[c]]
      | piece :: pieces => (c :: piece) :: pieces

/-- The non-empty pieces between runs of white space. -/
def words (s : String) : List String :=
  ((splitWhere isBlank s.toList).filter (!·.isEmpty)).map String.ofList

/-! ## Replacing -/

/-- Replace every character `old` by the text `new`. -/
def replaceChar (old : Char) (new : List Char) (cs : List Char) : List Char :=
  cs.flatMap fun c => if c = old then new else [c]

/-- Replace every `-` by a delimiter. -/
def replaceHyphens (s delimiter : String) : String :=
  String.ofList (replaceChar '-' delimiter.toList s.toList)

/-! ## Optional text -/

/-- A text that counts as absent when it is empty. -/
def nonEmpty? (s : Option String) : Option String := s.filter (· ≠ "")

end CiteStyle.Text
