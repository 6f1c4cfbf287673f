-- What surrounds the output of an element: its formatting, changes of its
-- text, quotes, affixes and the display group it stands in. Each part is
-- applied to what the part before it gives.
import CiteStyle.Locale.Basic
import CiteStyle.Output.Buffer
import CiteStyle.TextCase
import CiteStyle.Xml.Element

namespace CiteStyle

open Text

/-! ## Stages -/

namespace Display

/-- Frame output in the marks of a display group, unless it is empty. -/
def frame (d : Display) (b : Buffer) : Buffer :=
  if b.isEmpty then b else .displayStart d :: b ++ [.displayEnd d]

end Display

/-- Text in front of an output and behind it. An empty text counts as none. -/
structure Affixes where
  before : String := ""
  behind : String := ""
  deriving DecidableEq, Repr, Inhabited

namespace Affixes

/-- The affixes that an element gives. -/
def ofXml (e : Xml.Element) : Affixes where
  before := (e.attr? "prefix").getD ""
  behind := (e.attr? "suffix").getD ""

/-- Add the affixes to output, unless it is empty. -/
def apply (a : Affixes) (b : Buffer) : Buffer :=
  if b.isEmpty then b else (b.prependText .before a.before).appendText .behind a.behind

end Affixes

namespace Buffer

/-- Put output in the quotes of a locale, unless it is empty. -/
def quoted (locale : Locale) (b : Buffer) : Buffer :=
  if b.isEmpty then b
  else
    let openQuote := (locale.term? "open-quote" .long false).getD "“"
    let closeQuote := (locale.term? "close-quote" .long false).getD "”"
    (b.prependText .openQuote openQuote).appendText .closeQuote closeQuote

/-- Change the case of every text. -/
def changeCase (locale : Locale) (textCase : TextCase) (b : Buffer) : Buffer :=
  b.mapText (textCase.apply (locale.language == "en"))

/-- Take every period out of every text. -/
def stripPeriods (b : Buffer) : Buffer :=
  b.mapText fun s => String.ofList (s.toList.filter (· ≠ '.'))

end Buffer

/-! ## Decoration -/

/-- All that surrounds the output of an element. -/
structure Decoration where
  display : Option Display := none
  affixes : Affixes := {}
  quotes : Bool := false
  textCase : Option TextCase := none
  stripPeriods : Bool := false
  formatting : Formatting := .unset
  deriving DecidableEq, Repr, Inhabited

namespace Decoration

/-- The decoration that an element gives. -/
def ofXml (e : Xml.Element) : Decoration where
  display := (e.attr? "display").bind Display.ofName?
  affixes := .ofXml e
  quotes := e.flag "quotes"
  textCase := (e.attr? "text-case").bind TextCase.ofName?
  stripPeriods := e.flag "strip-periods"
  formatting := .ofAttributes e.attr?

/-- The decoration of what is neither quoted nor stripped of periods. -/
def unstripped (d : Decoration) : Decoration := { d with quotes := false, stripPeriods := false }

/-- The decoration of what stands inside of a line and is not quoted. -/
def inline (d : Decoration) : Decoration := { d with display := none, quotes := false }

/-- The decoration of what leaves the text of its content alone. -/
def outer (d : Decoration) : Decoration := { d.unstripped with textCase := none }

/-- Apply one change if it is asked for. -/
def applyTo (change : α → Buffer → Buffer) (asked : Option α) (b : Buffer) : Buffer :=
  match asked with
  | some a => change a b
  | none => b

/-- The parts of a decoration. -/
inductive Stage where
  | formatting
  | stripPeriods
  | textCase
  | quotes
  | affixes
  | display
  deriving DecidableEq, Repr

/-- The parts in the order in which they are applied, from the inside out. -/
def Stage.inOrder : List Stage :=
  [.formatting, .stripPeriods, .textCase, .quotes, .affixes, .display]

/-- Apply one part of a decoration. -/
def applyStage (locale : Locale) (d : Decoration) (b : Buffer) : Stage → Buffer
  | .formatting => b.wrap d.formatting
  | .stripPeriods => if d.stripPeriods then b.stripPeriods else b
  | .textCase => applyTo (Buffer.changeCase locale) d.textCase b
  | .quotes => if d.quotes then b.quoted locale else b
  | .affixes => d.affixes.apply b
  | .display => applyTo Display.frame d.display b

/-- Apply a decoration. -/
def apply (locale : Locale) (d : Decoration) (b : Buffer) : Buffer :=
  Stage.inOrder.foldl (d.applyStage locale) b

end Decoration

end CiteStyle
