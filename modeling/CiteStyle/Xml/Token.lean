-- The tokens of an XML document: tags, character data and remarks. Document
-- type declarations are not allowed.
import CiteStyle.Text.Integer

namespace CiteStyle.Xml

open Text

/-! ## Characters -/

/-- A character that may stand in a document. -/
def isXmlChar (c : Char) : Bool :=
  let n := c.toNat
  n == 9 || n == 10 || n == 13 || (32 ≤ n && n ≤ 0xD7FF) || (0xE000 ≤ n && n ≤ 0xFFFD)
    || 0x10000 ≤ n

/-- The white space of markup. -/
def isGap (c : Char) : Bool := c == ' ' || c == '\t' || c == '\n' || c == '\r'

/-- A character that may start a name. -/
def startsName (c : Char) : Bool :=
  let n := c.toNat
  c == ':' || c == '_' || ('A' ≤ c && c ≤ 'Z') || ('a' ≤ c && c ≤ 'z')
    || (0xC0 ≤ n && n ≤ 0xD6) || (0xD8 ≤ n && n ≤ 0xF6) || (0xF8 ≤ n && n ≤ 0x2FF)
    || (0x370 ≤ n && n ≤ 0x37D) || (0x37F ≤ n && n ≤ 0x1FFF) || (0x200C ≤ n && n ≤ 0x200D)
    || (0x2070 ≤ n && n ≤ 0x218F) || (0x2C00 ≤ n && n ≤ 0x2FEF) || (0x3001 ≤ n && n ≤ 0xD7FF)
    || (0xF900 ≤ n && n ≤ 0xFDCF) || (0xFDF0 ≤ n && n ≤ 0xFFFD) || (0x10000 ≤ n && n ≤ 0xEFFFF)

/-- A character that may stand in a name. -/
def continuesName (c : Char) : Bool :=
  let n := c.toNat
  startsName c || c == '-' || c == '.' || isDigit c || n == 0xB7
    || (0x300 ≤ n && n ≤ 0x36F) || (0x203F ≤ n && n ≤ 0x2040)

/-! ## Pieces of markup -/

/-- A name with the prefix of its namespace, which is empty if there is none. -/
structure QName where
  space : List Char
  localName : List Char
  deriving DecidableEq, Repr

/-- What follows a given text. -/
def after? : List Char → List Char → Option (List Char)
  | [], cs => some cs
  | p :: ps, c :: cs => if p = c then after? ps cs else none
  | _ :: _, [] => none

/-- The name with a prefix at the start of a text, and what follows. -/
def qname? (cs : List Char) : Option (QName × List Char) :=
  let name := cs.takeWhile continuesName
  let rest := cs.dropWhile continuesName
  let first := name.takeWhile (· != ':')
  match name.dropWhile (· != ':') with
  | [] => if first.head?.any startsName then some (⟨[], first⟩, rest) else none
  | _ :: second =>
    if first.head?.all startsName && second.head?.any startsName && !second.contains ':' then
      some (⟨first, second⟩, rest)
    else none

/-- An attribute as it is written. -/
structure RawAttribute where
  name : QName
  value : List Char
  deriving Repr

/-- The attribute at the start of a text, and what follows. Its value is in quotes of either
kind and has no opening angle bracket. -/
def attribute? (cs : List Char) : Option (RawAttribute × List Char) := do
  let (name, rest) ← qname? cs
  let rest ← after? ['='] (rest.dropWhile isGap)
  match rest.dropWhile isGap with
  | q :: rest =>
    if q = '"' ∨ q = '\'' then
      let value := rest.takeWhile fun c => c != q && c != '<'
      if value.all isXmlChar then
        let rest ← after? [q] (rest.dropWhile fun c => c != q && c != '<')
        return (⟨name, value⟩, rest)
      else none
    else none
  | [] => none

/-- The text up to a mark, and what follows the mark. -/
def upTo? (mark : List Char) : List Char → Option (List Char × List Char)
  | [] => none
  | c :: rest =>
    match after? mark (c :: rest) with
    | some after => some ([], after)
    | none => (upTo? mark rest).map fun (text, after) => (c :: text, after)

/-- Whether a mark stands somewhere in a text. -/
def holds (mark : List Char) (cs : List Char) : Bool :=
  (upTo? mark cs).isSome

/-! ## Tokens -/

/-- A token of a document. -/
inductive Token where
  /-- A start tag; `closed` says that it is the whole element. -/
  | start (name : QName) (attributes : List RawAttribute) (closed : Bool)
  | stop (name : QName)
  /-- Character data, with references still in it. -/
  | data (text : List Char)
  /-- Character data without references. -/
  | verbatim (text : List Char)
  /-- A comment or a processing instruction. -/
  | remark
  deriving Repr

/-- The attributes of a start tag up to its end, whether it closes the element, and what
follows. White space stands in front of each attribute. -/
def tagRest? (fuel : Nat) (cs : List Char) :
    Option (List RawAttribute × Bool × List Char) :=
  match fuel with
  | 0 => none
  | fuel + 1 =>
    match cs.dropWhile isGap with
    | '>' :: rest => some ([], false, rest)
    | '/' :: '>' :: rest => some ([], true, rest)
    | next =>
      if cs.head?.any isGap then
        match attribute? next with
        | none => none
        | some (a, rest) =>
          (tagRest? fuel rest).map fun (others, closed, after) => (a :: others, closed, after)
      else none

/-- A comment, from behind its opening mark. It has no two hyphens in a row, and none in
front of its closing mark. -/
def comment? (cs : List Char) : Option (List Char) := do
  let (text, rest) ← upTo? "-->".toList cs
  if text.all isXmlChar && !holds "--".toList text && text.getLast? != some '-' then some rest
  else none

/-- A processing instruction, from behind its opening mark. -/
def instruction? (cs : List Char) : Option (List Char) := do
  let name := cs.takeWhile continuesName
  let rest := (cs.dropWhile continuesName).dropWhile isGap
  let (text, rest) ← upTo? "?>".toList rest
  if name.head?.any startsName && text.all isXmlChar then some rest else none

/-- The token at the start of a text, and what follows. -/
def token? (cs : List Char) : Option (Token × List Char) :=
  match cs with
  | '<' :: '!' :: '-' :: '-' :: rest => (comment? rest).map (.remark, ·)
  | '<' :: '!' :: rest => do
    let (text, rest) ← upTo? "]]>".toList (← after? "[CDATA[".toList rest)
    if text.all isXmlChar then some (.verbatim text, rest) else none
  | '<' :: '?' :: rest =>
    if (after? "xml ".toList rest).isSome then none
    else (instruction? rest).map (.remark, ·)
  | '<' :: '/' :: rest => do
    let (name, rest) ← qname? rest
    let rest ← after? ['>'] (rest.dropWhile isGap)
    return (.stop name, rest)
  | '<' :: rest => do
    let (name, rest) ← qname? rest
    let (attributes, closed, rest) ← tagRest? (rest.length + 1) rest
    return (.start name attributes closed, rest)
  | _ =>
    let text := cs.takeWhile (· != '<')
    if text.all isXmlChar && !holds "]]>".toList text then
      some (.data text, cs.dropWhile (· != '<'))
    else none

/-- The tokens of a text. -/
def tokens? (cs : List Char) : Option (List Token) :=
  match cs with
  | [] => some []
  | c :: rest =>
    match token? (c :: rest) with
    | none => none
    | some (t, after) =>
      if _shorter : after.length < (c :: rest).length then (tokens? after).map (t :: ·)
      else none
termination_by cs.length
decreasing_by exact _shorter

/-- What follows the white space that has to stand between the parts of a declaration. -/
def declarationGap? (cs : List Char) : Option (List Char) :=
  if cs.head?.any isGap || (after? "?>".toList cs).isSome then some (cs.dropWhile isGap)
  else none

/-- What follows the declaration of a version, if the text starts with one; nothing if it is
malformed. -/
def afterDeclaration? (cs : List Char) : Option (List Char) :=
  match after? "<?xml ".toList cs with
  | none => some cs
  | some rest => do
    let rest := rest.dropWhile isGap
    let _ ← after? "version".toList rest
    let rest ← declarationGap? (← attribute? rest).2
    let rest ←
      if (after? "encoding".toList rest).isSome then declarationGap? (← attribute? rest).2
      else some rest
    let rest ←
      if (after? "standalone".toList rest).isSome then some (← attribute? rest).2
      else some rest
    after? "?>".toList (rest.dropWhile isGap)

/-- The tokens of a document. -/
def documentTokens? (text : String) : Option (List Token) := do
  let cs := match text.toList with
    | '\ufeff' :: rest => rest
    | cs => cs
  tokens? (← afterDeclaration? cs)

end CiteStyle.Xml
