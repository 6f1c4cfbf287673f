-- Initials of a given name: Jean-Luc becomes J.-L. Words may also be kept,
-- so that only initials that are there already are written anew.
import CiteStyle.Text.Cut

namespace CiteStyle.Name

open Text

/-! ## Words of a given name -/

/-- A hyphen or an en dash. -/
def isHyphen (c : Char) : Bool := c == '-' || c == '–'

/-- A character that stands between the words of a given name. -/
def separatesGiven (c : Char) : Bool := isBlank c || c == '.' || isHyphen c

/-- A word of a given name, whether a hyphen stands before it, and whether a period
follows it. -/
structure GivenWord where
  hyphened : Bool
  text : List Char
  dotted : Bool
  deriving DecidableEq, Repr

/-- The words of a given name. -/
def givenWords (cs : List Char) : List GivenWord :=
  match _h : cs.dropWhile separatesGiven with
  | [] => []
  | c :: rest =>
    let after := rest.dropWhile (!separatesGiven ·)
    ⟨(cs.takeWhile separatesGiven).any isHyphen, c :: rest.takeWhile (!separatesGiven ·),
      after.head? == some '.'⟩ :: givenWords after
termination_by cs.length
decreasing_by
  have h1 := (List.dropWhile_sublist separatesGiven (l := cs)).length_le
  have h2 := (List.dropWhile_sublist (!separatesGiven ·) (l := rest)).length_le
  rw [_h, List.length_cons] at h1
  omega

/-! ## Shortening -/

/-- What is left of a word: its text, and whether it stands for a whole word, so that
no mark of abbreviation follows it. -/
structure ShortWord where
  hyphened : Bool
  text : List Char
  whole : Bool
  deriving DecidableEq, Repr

/-- Cut a word to its first letter, unless it is an abbreviation or words are kept. -/
def GivenWord.shorten (keepWords : Bool) (w : GivenWord) : ShortWord :=
  if w.text.length ≤ 1 || w.dotted then ⟨w.hyphened, w.text, false⟩
  else if keepWords then ⟨w.hyphened, w.text, true⟩
  else ⟨w.hyphened, w.text.take 1, false⟩

/-- What stands between a word and the next one. -/
def ShortWord.joint (mark : List Char) (w next : ShortWord) : List Char :=
  let closed := if w.whole then [] else dropEndWhile isBlank mark
  if next.hyphened then closed ++ ['-']
  else if w.whole || next.whole then closed ++ [' ']
  else mark

/-- Words in order, with `mark` after each that is not whole. -/
def joinShort (mark : List Char) : List ShortWord → List Char
  | [] => []
  | [w] => w.text ++ if w.whole then [] else dropEndWhile isBlank mark
  | w :: next :: rest => w.text ++ w.joint mark next ++ joinShort mark (next :: rest)

/-- The initials of a given name, with `mark` after each. If words are kept, only the
initials and the abbreviations of the name are written anew. -/
def initials (given mark : String) (keepWords : Bool) : String :=
  String.ofList (joinShort mark.toList ((givenWords given.toList).map (·.shorten keepWords)))

end CiteStyle.Name
