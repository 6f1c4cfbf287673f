-- Turning output into markup. A markup says how each kind of formatting is
-- written; the walk over the tokens is the same for all.
import CiteStyle.Output.Buffer

namespace CiteStyle

/-- How text and its formatting are written. -/
structure Markup where
  /-- Text without formatting. -/
  text : String → String
  emphasis : String → String
  strong : String → String
  smallCaps : String → String
  underline : String → String
  superscript : String → String
  subscript : String → String
  /-- Content that leads to a location. -/
  link : String → String → String
  /-- The content of a display group. -/
  display : Display → String → String

namespace Markup

/-! ## Texts -/

/-- The location of a DOI. -/
def doiLocation (doi : String) : String :=
  if "http://".toList.isPrefixOf doi.toList || "https://".toList.isPrefixOf doi.toList then doi
  else "https://doi.org/" ++ doi

/-- Apply a change if a condition holds. -/
def applyIf (condition : Bool) (f : String → String) (s : String) : String :=
  if condition then f s else s

/-- A text with its link. -/
def linked (m : Markup) (kind : TokenKind) (s : String) : String :=
  match kind with
  | .url => m.link s (m.text s)
  | .doi => m.link (doiLocation s) (m.text s)
  | _ => m.text s

/-- Formatting written around a content, the slant innermost. -/
def formatted (m : Markup) (f : Formatting) (content : String) : String :=
  let s := applyIf (f.fontStyle = some .italic || f.fontStyle = some .oblique) m.emphasis content
  let s := applyIf (f.fontWeight = some .bold) m.strong s
  let s := applyIf (f.fontVariant = some .smallCaps) m.smallCaps s
  let s := applyIf (f.textDecoration = some .underline) m.underline s
  match f.verticalAlign with
  | some .sup => m.superscript s
  | some .sub => m.subscript s
  | _ => s

/-! ## The walk -/

/-- What is written so far: the text outside of display groups, and the groups that are open
with the text in each, the innermost first. -/
structure Written where
  outside : String
  groups : List (Display × String)
  deriving DecidableEq, Repr

namespace Written

/-- Add text where the walk is. -/
def add (w : Written) (s : String) : Written :=
  match w.groups with
  | [] => { w with outside := w.outside ++ s }
  | (display, content) :: rest => { w with groups := (display, content ++ s) :: rest }

/-- Close the innermost group, if one is open. -/
def close (m : Markup) (w : Written) : Written :=
  match w.groups with
  | [] => w
  | (display, content) :: rest =>
    ({ w with groups := rest } : Written).add (m.display display content)

/-- The text once all groups are closed. -/
def finish (m : Markup) (outside : String) : List (Display × String) → String
  | [] => outside
  | [(display, content)] => outside ++ m.display display content
  | (display, content) :: (outer, text) :: rest =>
    finish m outside ((outer, text ++ m.display display content) :: rest)
termination_by groups => groups.length

end Written

/-- Write one token. A mark that ends a group closes the innermost one. -/
def step (m : Markup) (w : Written) : Token → Written
  | .text kind s formatting => w.add (m.formatted formatting (m.linked kind s))
  | .displayStart display => { w with groups := (display, "") :: w.groups }
  | .displayEnd _ => w.close m

/-- Write a buffer. Groups that are still open at the end are closed there. -/
def write (m : Markup) (b : Buffer) : String :=
  let w := b.foldl m.step ⟨"", []⟩
  Written.finish m w.outside w.groups

/-! ## Plain text -/

/-- Put a mark on both sides of a content that is not empty. -/
def between (mark : String) (content : String) : String :=
  if content = "" then "" else mark ++ content ++ mark

/-- Plain text, with marks for slanted and for bold text only. -/
def plain : Markup where
  text s := s
  emphasis := between "_"
  strong := between "**"
  smallCaps s := s
  underline s := s
  superscript s := s
  subscript s := s
  link _ s := s
  display _ s := s

/-! ## HTML -/

/-- A character as HTML text. -/
def escapeChar (c : Char) : List Char :=
  match c with
  | '&' => "&amp;".toList
  | '<' => "&lt;".toList
  | '>' => "&gt;".toList
  | '"' => "&quot;".toList
  | c => [c]

/-- A text as HTML text. -/
def escape (s : String) : String := String.ofList (s.toList.flatMap escapeChar)

/-- A content in an element, given what stands in its start tag. -/
def tagged (name attributes content : String) : String :=
  "<" ++ name ++ attributes ++ ">" ++ content ++ "</" ++ name ++ ">"

/-- An attribute of a start tag. -/
def tagAttribute (name value : String) : String := " " ++ name ++ "=\"" ++ value ++ "\""

/-- HTML. -/
def html : Markup where
  text := escape
  emphasis := tagged "i" ""
  strong := tagged "b" ""
  smallCaps := tagged "span" (tagAttribute "style" "font-variant:small-caps")
  underline := tagged "span" (tagAttribute "style" "text-decoration:underline")
  superscript := tagged "sup" ""
  subscript := tagged "sub" ""
  link location := tagged "a" (tagAttribute "href" (escape location))
  display d := tagged "div" (tagAttribute "class" ("csl-" ++ d.name))

end Markup

end CiteStyle
