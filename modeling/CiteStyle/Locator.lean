-- Locators: text such as ch. 2-3, p. 4 that points into a work. It is cut
-- into parts, each under the label that stands in front of it.
import CiteStyle.Text.Cut
import CiteStyle.Text.Integer

namespace CiteStyle.Locator

open Text

/-! ## Labels -/

/-- What a spelling of a label stands for: the name of a term of the locale,
and whether the spelling is a plural. -/
structure Label where
  term : String
  plural : Bool
  deriving DecidableEq, Repr

/-- The spellings that are known as labels. -/
def labels : List (String × Label) :=
  [("p.", ⟨"page", false⟩), ("pp.", ⟨"page", true⟩),
   ("page", ⟨"page", false⟩), ("pages", ⟨"page", true⟩),
   ("ch.", ⟨"chapter", false⟩), ("chap.", ⟨"chapter", false⟩), ("chaps.", ⟨"chapter", true⟩),
   ("chapter", ⟨"chapter", false⟩), ("chapters", ⟨"chapter", true⟩),
   ("sec.", ⟨"section", false⟩), ("secs.", ⟨"section", true⟩),
   ("section", ⟨"section", false⟩), ("sections", ⟨"section", true⟩),
   ("§", ⟨"section", false⟩), ("§§", ⟨"section", true⟩),
   ("vol.", ⟨"volume", false⟩), ("vols.", ⟨"volume", true⟩),
   ("volume", ⟨"volume", false⟩), ("volumes", ⟨"volume", true⟩),
   ("no.", ⟨"number", false⟩), ("nos.", ⟨"number", true⟩),
   ("fig.", ⟨"figure", false⟩), ("figs.", ⟨"figure", true⟩),
   ("figure", ⟨"figure", false⟩), ("figures", ⟨"figure", true⟩),
   ("para.", ⟨"paragraph", false⟩), ("paras.", ⟨"paragraph", true⟩),
   ("¶", ⟨"paragraph", false⟩), ("¶¶", ⟨"paragraph", true⟩),
   ("l.", ⟨"line", false⟩), ("ll.", ⟨"line", true⟩),
   ("line", ⟨"line", false⟩), ("lines", ⟨"line", true⟩),
   ("n.", ⟨"note", false⟩), ("nn.", ⟨"note", true⟩),
   ("note", ⟨"note", false⟩), ("notes", ⟨"note", true⟩),
   ("pt.", ⟨"part", false⟩), ("pts.", ⟨"part", true⟩),
   ("part", ⟨"part", false⟩), ("parts", ⟨"part", true⟩),
   ("v.", ⟨"verse", false⟩), ("vv.", ⟨"verse", true⟩),
   ("verse", ⟨"verse", false⟩), ("verses", ⟨"verse", true⟩),
   ("bk.", ⟨"book", false⟩), ("bks.", ⟨"book", true⟩),
   ("book", ⟨"book", false⟩), ("books", ⟨"book", true⟩),
   ("col.", ⟨"column", false⟩), ("cols.", ⟨"column", true⟩),
   ("fol.", ⟨"folio", false⟩), ("fols.", ⟨"folio", true⟩),
   ("op.", ⟨"opus", false⟩), ("opp.", ⟨"opus", true⟩),
   ("s.v.", ⟨"sub verbo", false⟩), ("s.vv.", ⟨"sub verbo", true⟩)]

/-- The label that a word spells, whatever the case of its ASCII letters. -/
def Label.ofWord? (word : String) : Option Label :=
  labels.lookup (String.ofList (word.toList.map Char.toLower))

/-! ## Tokens -/

/-- A piece of a locator. -/
inductive Token where
  | word (text : String)
  | comma
  | semicolon
  | ampersand
  | dash
  deriving DecidableEq, Repr

/-- The mark that a character is, if it is one. -/
def mark? (c : Char) : Option Token :=
  if c = ',' then some .comma
  else if c = ';' then some .semicolon
  else if c = '&' then some .ampersand
  else if c = '-' || c = '–' then some .dash
  else none

/-- A character that may stand in a word. -/
def isWordChar (c : Char) : Bool := !isBlank c && (mark? c).isNone

/-- The tokens of a text. ASCII white space may stand between them; any other
white space makes the text unreadable. -/
def tokensOf? (cs : List Char) : Option (List Token) :=
  match cs with
  | [] => some []
  | c :: rest =>
    if isPlainBlank c then tokensOf? rest
    else match mark? c with
      | some mark => (tokensOf? rest).map (mark :: ·)
      | none =>
        if isBlank c then none
        else
          (tokensOf? (rest.dropWhile isWordChar)).map
            (.word (String.ofList (c :: rest.takeWhile isWordChar)) :: ·)
termination_by cs.length
decreasing_by
  · simp
  · simp
  · have := (List.dropWhile_sublist isWordChar (l := rest)).length_le
    simp
    omega

namespace Token

/-- A comma or a semicolon. -/
def endsPart (t : Token) : Bool := t == .comma || t == .semicolon

/-- A token that may stand between the items of a list. -/
def joins (t : Token) : Bool :=
  match t with
  | .word text => text == "and"
  | _ => true

/-- A word that is an item of a list: one with a digit, or a roman numeral. -/
def isItem (t : Token) : Bool :=
  match t with
  | .word text =>
    text != "and" &&
      (text.toList.any isDigit || text.toList.all fun c => "IVXLCDM".toList.contains c.toUpper)
  | _ => false

end Token

/-! ## Lists of numbers -/

/-- How many items a list has, when `seen` items came before it and `due` says
that an item has to come next; nothing if it is not a list of items with joiners
between them. -/
def itemsFrom? (seen : Nat) (due : Bool) : List Token → Option Nat
  | [] => if 0 < seen && !due then some seen else none
  | t :: rest =>
    if t.isItem then if due then itemsFrom? (seen + 1) false rest else none
    else if t.joins then if seen = 0 then none else itemsFrom? seen true rest
    else none

/-- How many items a list of numbers has. -/
def items? (ts : List Token) : Option Nat := itemsFrom? 0 true ts

/-- The text of a list in its normal spelling; `spaced` says that the text so far
ends with a space. -/
def listTextFrom (spaced : Bool) : List Token → List Char
  | [] => []
  | .comma :: rest => ", ".toList ++ listTextFrom true rest
  | .semicolon :: rest => "; ".toList ++ listTextFrom true rest
  | .ampersand :: rest => " & ".toList ++ listTextFrom true rest
  | .dash :: rest => '–' :: listTextFrom false rest
  | .word text :: rest =>
    if text = "and" then
      (if spaced then [] else [' ']) ++ "and ".toList ++ listTextFrom true rest
    else text.toList ++ listTextFrom false rest

/-- The text of tokens that are no list; `due` says that a word needs a space in
front of it. -/
def plainTextFrom (due : Bool) : List Token → List Char
  | [] => []
  | .comma :: rest => ',' :: plainTextFrom true rest
  | .semicolon :: rest => ';' :: plainTextFrom true rest
  | .ampersand :: rest => " & ".toList ++ plainTextFrom false rest
  | .dash :: rest => '-' :: plainTextFrom false rest
  | .word text :: rest => (if due then [' '] else []) ++ text.toList ++ plainTextFrom true rest

/-! ## Segments -/

/-- A stretch of a locator under one label, with the mark that ends it. -/
structure Segment where
  label : Option Label
  tokens : List Token
  ending : Option Token

/-- The label at the start of some tokens, and the tokens after it. A label has
to be followed by something. -/
def leadingLabel? : List Token → Option (Label × List Token)
  | .word text :: next :: rest => (Label.ofWord? text).map (·, next :: rest)
  | _ => none

theorem length_lt_of_leadingLabel? {ts after : List Token} {label : Label}
    (h : leadingLabel? ts = some (label, after)) : after.length < ts.length := by
  unfold leadingLabel? at h
  split at h
  · simp only [Option.map_eq_some_iff, Prod.mk.injEq] at h
    obtain ⟨_, _, _, rfl⟩ := h
    simp
  · contradiction

/-- The segments of some tokens, where the first one is under `label` and `taken`
are the tokens it has so far. -/
def segmentsFrom (label : Option Label) (taken : List Token) (ts : List Token) : List Segment :=
  match ts with
  | [] => [⟨label, taken, none⟩]
  | t :: rest =>
    match _h : leadingLabel? rest with
    | some (next, after) =>
      if t.endsPart then ⟨label, taken, some t⟩ :: segmentsFrom (some next) [] after
      else segmentsFrom label (taken ++ [t]) rest
    | none => segmentsFrom label (taken ++ [t]) rest
termination_by ts.length
decreasing_by
  · have := length_lt_of_leadingLabel? _h
    simp
    omega
  all_goals simp

/-- The segments of some tokens. A label counts only at the start, or right after
a comma or a semicolon. -/
def segments (ts : List Token) : List Segment :=
  match leadingLabel? ts with
  | some (label, after) => segmentsFrom (some label) [] after
  | none => segmentsFrom none [] ts

/-- Drop commas and semicolons from the end of the last segment. -/
def trimLast : List Segment → List Segment
  | [] => []
  | [last] => [{ last with tokens := dropEndWhile Token.endsPart last.tokens }]
  | s :: rest => s :: trimLast rest

/-! ## Parts -/

/-- A part of a locator: its text, the term that labels it, and whether the label
is in the plural. -/
structure Part where
  text : String
  label : Option String
  plural : Bool
  deriving DecidableEq, Repr

/-- The text that a mark leaves at the end of its segment. -/
def endingText : Option Token → List Char
  | none => []
  | some .semicolon => "; ".toList
  | some _ => ", ".toList

/-- The part that a segment makes: a list is spelled in the normal way and is in
the plural from two items on. -/
def Segment.toPart (s : Segment) : Part :=
  let items := items? s.tokens
  let body := if items.isSome then listTextFrom false s.tokens else plainTextFrom false s.tokens
  let several := items.getD 0 > 1
  { text := String.ofList (body ++ endingText s.ending)
    label := s.label.map (·.term)
    plural := (s.label.map (·.plural)).getD false || several }

/-- Join neighbours that have the same label, where `current` is the part in front
of the rest. -/
def joinSame (current : Part) : List Part → List Part
  | [] => [current]
  | next :: rest =>
    if current.label.isSome && current.label = next.label then
      joinSame ⟨current.text ++ next.text, current.label, true⟩ rest
    else current :: joinSame next rest

/-- The parts of a locator. A text that cannot be read, or that is blank, is one
part without a label. -/
def parts (value : String) : List Part :=
  match tokensOf? value.toList with
  | none | some [] => [⟨trim value, none, false⟩]
  | some ts =>
    match (trimLast (segments ts)).map Segment.toPart with
    | [] => []
    | first :: rest => joinSame first rest

end CiteStyle.Locator
