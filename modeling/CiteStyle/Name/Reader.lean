-- Reading a list of names with "and" between them. A name is written as
-- First von Last, as von Last, First, as von Last, Jr, First or as First Last, Jr.
-- A name that is one brace group is kept as it is.
import CiteStyle.Name.Basic
import CiteStyle.Name.Braces
import CiteStyle.Text.Case
import CiteStyle.Text.Cut

namespace CiteStyle.Name

open Text

/-! ## Tokens -/

/-- A piece of a list of names. -/
inductive Token where
  | word (text : String)
  /-- The text of a brace group. -/
  | braced (text : String)
  | comma
  deriving DecidableEq, Repr

/-- A character that may stand in a word. -/
def isWordChar (c : Char) : Bool := !isBlank c && c != ',' && c != '\x7b'

/-- The tokens of a text. ASCII white space may stand between them; any other white
space, and a brace that never closes, make the text unreadable. -/
def tokensOf? (cs : List Char) : Option (List Token) :=
  match cs with
  | [] => some []
  | c :: rest =>
    if isPlainBlank c then tokensOf? rest
    else if c = ',' then (tokensOf? rest).map (.comma :: ·)
    else match _h : Braces.groupAt? (c :: rest) with
      | some (inside, after) =>
        (tokensOf? after).map (.braced (String.ofList (Braces.unescape inside)) :: ·)
      | none =>
        if isWordChar c then
          (tokensOf? (rest.dropWhile isWordChar)).map
            (.word (String.ofList (c :: rest.takeWhile isWordChar)) :: ·)
        else none
termination_by cs.length
decreasing_by
  · simp
  · simp
  · exact Braces.length_lt_of_groupAt? _h
  · have := (List.dropWhile_sublist isWordChar (l := rest)).length_le
    simp
    omega

namespace Token

/-- The text of a word or of a brace group. -/
def text : Token → String
  | .word text => text
  | .braced text => text
  | .comma => ","

/-- A word that starts in lower case, and so belongs to a particle. A brace group never
does. -/
def isParticle : Token → Bool
  | .word text => text.toList.head?.any isLowercase
  | _ => false

end Token

/-! ## The parts of one name -/

/-- Words with spaces between them, or nothing if there are none. -/
def joinWords (ts : List Token) : Option String :=
  if ts.isEmpty then none else some (String.intercalate " " (ts.map Token.text))

/-- The suffixes that are known as such after the only comma of a name. -/
def suffixes : List String := ["jr", "jr.", "sr", "sr.", "ii", "iii", "iv"]

/-- A single word that is a suffix. -/
def isSuffix : List Token → Bool
  | [t] => suffixes.contains (lower t.text)
  | _ => false

/-- The given part, the particle and the family part of words in natural order. The last
word is never part of the particle, and may not look like one. -/
def splitNatural? (ts : List Token) : Option (List Token × List Token × List Token) :=
  match ts.getLast? with
  | none => none
  | some last =>
    if last.isParticle then none
    else
      let given := ts.dropLast.takeWhile (!·.isParticle)
      let others := ts.dropLast.dropWhile (!·.isParticle)
      let particle := dropEndWhile (!·.isParticle) others
      some (given, particle, others.drop particle.length ++ [last])

/-- The particle and the family part of the words before a comma. -/
def splitInverted? (ts : List Token) : Option (List Token × List Token) :=
  match ts.getLast? with
  | none => none
  | some last =>
    let particle := dropEndWhile (!·.isParticle) ts.dropLast
    some (particle, ts.dropLast.drop particle.length ++ [last])

/-- A name in natural order. -/
def ofNatural? (ts : List Token) : Option Name :=
  (splitNatural? ts).map fun (given, particle, family) =>
    { family := joinWords family, given := joinWords given,
      nonDroppingParticle := joinWords particle }

/-- A name with its family part in front, to which a given part and a suffix come. -/
def ofInverted? (ts given ending : List Token) : Option Name :=
  (splitInverted? ts).map fun (particle, family) =>
    { family := joinWords family, given := joinWords given,
      nonDroppingParticle := joinWords particle, ending := joinWords ending }

/-- The name that some tokens spell. -/
def ofTokens? (ts : List Token) : Option Name :=
  match ts with
  | [.braced text] => some (.ofLiteral text)
  | _ =>
    match splitWhere (· == .comma) ts with
    | [only] => ofNatural? only
    | [head, tail] =>
      if isSuffix tail then (ofNatural? head).map ({ · with ending := joinWords tail })
      else ofInverted? head tail []
    | [head, ending, given] => ofInverted? head given ending
    | _ => none

/-! ## Lists of names -/

/-- The names of a text in which every name can be read. -/
def list? (text : String) : Option (List Name) :=
  match tokensOf? text.toList with
  | none | some [] => none
  | some ts => (splitWhere (· == .word "and") ts).mapM ofTokens?

/-- Read a list of names. A text that cannot be read is one literal name. -/
def readList (text : String) : List Name := (list? text).getD [.ofLiteral text]

end CiteStyle.Name
