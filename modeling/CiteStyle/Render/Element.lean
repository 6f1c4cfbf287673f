-- Rendering elements. An element gives output and never sees what was written
-- before it; what elements know of each other goes through the pass.
import CiteStyle.Pages.Reader
import CiteStyle.Render.Condition
import CiteStyle.Render.Date
import CiteStyle.Render.Names
import CiteStyle.Render.Pass

namespace CiteStyle

open Rendering

/-! ## Labels -/

namespace LabelElement

/-- The variables whose labels stand in their text. -/
def hasOwnLabels (name : String) : Bool := name = "number" || name = "locator"

/-- The term that names a part of a number or of a locator. -/
def partTerm (s : Setting) (name : String) (place : Nat) (part : Locator.Part) : String :=
  part.label.getD <|
    if place = 0 && name = "locator" then s.cite.label.getD "page" else name

/-- The term that names a value, and whether the value asks for its plural. -/
def termOf? (s : Setting) (name : String) (place : Nat) : Value → Option (String × Bool)
  | .names names => some (name, names.length > 1)
  | .date _ => some (name, false)
  | .text text =>
    if hasOwnLabels name then
      (Locator.parts text)[place]?.map fun part => (partTerm s name place part, part.plural)
    else some (name, Numeric.count text > 1)

/-- The label is in the plural. -/
def isPlural (l : LabelElement) (several : Bool) : Bool :=
  match l.plural with
  | .contextual => several
  | .always => true
  | .never => false

/-- The text of a label for a value. -/
def termText? (l : LabelElement) (s : Setting) (name : String) (place : Nat) (value : Value) :
    Option String := do
  let (term, several) ← termOf? s name place value
  s.locale.term? term l.form (l.isPlural several)

/-- Remember the label of a number or of a locator, if it stands for the first part. -/
def remember (l : LabelElement) (name : String) (place : Nat) : Rendering Unit :=
  if place = 0 && hasOwnLabels name then change fun p => { p with lastLabel := some l }
  else return ()

/-- Render the label of a variable, or of one part of a number or of a locator. -/
def renderFor (l : LabelElement) (s : Setting) (name : String) (place : Nat) :
    Rendering Buffer := do
  l.remember name place
  let value ← fetchValue s name
  let text := value.bind (l.termText? s name place)
  return l.decoration.apply s.locale (Buffer.ofText .plain (text.getD ""))

/-- Render the label of its own variable, if it has one. -/
def render (l : LabelElement) (s : Setting) (place : Nat) : Rendering Buffer :=
  match l.subject with
  | some name => l.renderFor s name place
  | none => return []

end LabelElement

/-! ## Texts and numbers -/

namespace TextElement

/-- Pages, as the convention for ranges asks for. -/
def writePages (s : Setting) (pages : String) : String :=
  let delimiter := (s.word? "page-range-delimiter").getD "–"
  match s.rangeFormat with
  | some format => format.formatAll delimiter (Pages.read pages)
  | none => Text.replaceHyphens pages delimiter

/-- Render the label in front of a part of a locator. A part after the first that has a label
repeats the last label. -/
def renderPartLabel (s : Setting) (place : Nat) (part : Locator.Part) : Rendering Buffer := do
  match (← remembered).lastLabel with
  | some l => if 0 < place && part.label.isSome then l.render s place else return []
  | none => return []

/-- Render the parts of a locator from a place on. -/
def renderParts (s : Setting) (place : Nat) : List Locator.Part → Rendering Buffer
  | [] => return []
  | part :: rest => do
    let label ← renderPartLabel s place part
    return label ++ Buffer.ofText .plain part.text ++ (← renderParts s (place + 1) rest)

/-- Render the text of a variable. -/
def renderVariable (s : Setting) (name text : String) : Rendering Buffer :=
  match name with
  | "page" => return Buffer.ofText .plain (writePages s text)
  | "locator" => renderParts s 0 (Locator.parts text)
  | "number" => renderParts s 0 (Locator.parts text)
  | "DOI" => return Buffer.ofText .doi text
  | "URL" => return Buffer.ofText .url text
  | _ => return Buffer.ofText .plain text

/-- Render what a text comes from, with a way to render macros. -/
def renderSource (call : String → Rendering Buffer) (s : Setting) :
    TextSource → Rendering Buffer
  | .ofVariable name short => do
    match ← fetchText s short name with
    | some text => renderVariable s name text
    | none => return []
  | .call name => call name
  | .term name form plural =>
    return Buffer.ofText .plain ((s.locale.term? name form plural).getD "")
  | .value text => return Buffer.ofText .plain text

/-- Render a text, with a way to render macros. -/
def render (call : String → Rendering Buffer) (s : Setting) (e : TextElement) :
    Rendering Buffer :=
  e.decoration.apply s.locale <$> renderSource call s e.source

end TextElement

/-- Render a number. -/
def NumberElement.render (s : Setting) (e : NumberElement) : Rendering Buffer := do
  let text := (← fetchText s false e.subject).getD ""
  return e.decoration.apply s.locale (e.form.writeAll s.locale text)

/-! ## Dates -/

namespace DateElement

/-- Render a value of a date. -/
def renderValue (e : DateElement) (s : Setting) (season : Option String) :
    DateValue → Rendering Buffer
  | .parts first last => return writeRange s.locale season first last (e.partsIn s.locale)
  | .literal text => return Buffer.ofText .plain text
  | .season text => return Buffer.ofText .plain (seasonText s.locale text)
  | .raw text => do
    match ← readDate s text with
    | some date => return writeRange s.locale season date.parts date.parts (e.partsIn s.locale)
    | none => return Buffer.ofText .plain text

/-- Render a date without its decoration. -/
def renderContent (s : Setting) (e : DateElement) : Rendering Buffer := do
  match ← peekDate s e.subject with
  | none => return []
  | some date =>
    match date.value with
    | some value => e.renderValue s (Text.nonEmpty? date.season) value
    | none => return []

/-- Render a date. It counts as found if it gives output. -/
def render (s : Setting) (e : DateElement) : Rendering Buffer := do
  let content ← e.renderContent s
  report e.subject (!content.isEmpty)
  return e.decoration.apply s.locale content

end DateElement

/-! ## Names -/

namespace NamesFormat

/-- Render the label of a list of names, if it stands on the side that is asked for. -/
def renderLabel (f : NamesFormat) (s : Setting) (first : Bool) (name : String) :
    Rendering Buffer :=
  match f.label with
  | some label => if f.labelFirst = first then label.renderFor s name 0 else return []
  | none => return []

/-- Render the names of one variable with their label. -/
def renderList (f : NamesFormat) (s : Setting) (name : String) : Rendering Buffer := do
  match ← fetchNames s name with
  | none => return []
  | some names =>
    let before ← f.renderLabel s true name
    let after ← f.renderLabel s false name
    return before ++ f.name.write s.nameOptions s.locale names ++ after

/-- Render the names of some variables, each list on its own. -/
def renderLists (f : NamesFormat) (s : Setting) : List String → Rendering (List Buffer)
  | [] => return []
  | name :: rest => return (← f.renderList s name) :: (← f.renderLists s rest)

/-- Count the names of some variables that would be written. -/
def countNames (f : NamesFormat) (s : Setting) : List String → Rendering Nat
  | [] => return 0
  | name :: rest => do
    let names := (← fetchNames s name).getD []
    return f.name.count s.nameOptions names + (← f.countNames s rest)

/-- The number of some names as output; none if there are no names. -/
def writeCount (total : Nat) : Buffer :=
  if total = 0 then [] else Buffer.ofText .plain (plainNumber total)

/-- Render the names of some variables, or only their number, without their decoration. -/
def renderContent (f : NamesFormat) (s : Setting) (names : List String) : Rendering Buffer :=
  match f.name.form with
  | .count => writeCount <$> f.countNames s names
  | _ => Buffer.joinFilled f.delimiter <$> f.renderLists s names

/-- Render the names of some variables, or only their number. -/
def render (f : NamesFormat) (s : Setting) (names : List String) : Rendering Buffer :=
  f.decoration.apply s.locale <$> f.renderContent s names

end NamesFormat

/-! ## Elements -/

namespace Element

/-- A branch is taken: it has no condition, or one that holds. -/
def takes (s : Setting) (condition : Option Condition) : Rendering Bool :=
  return condition.all (·.holds s (← remembered).suppressed)

mutual
/-- Render an element in pieces: that of the element itself, or of a choice those of the
elements in the branch that is taken. -/
def pieces (call : String → Rendering Buffer) (s : Setting) : Element → Rendering (List Buffer)
  | .text e => return [← e.render call s]
  | .number e => return [← e.render s]
  | .label e => return [← e.render s 0]
  | .date e => return [← e.render s]
  | .names subjects format substitute => do
    let content ← format.render s subjects
    if content.isEmpty then return [← firstFilled call s substitute] else return [content]
  | .group delimiter decoration children => do
    let (items, fetches) ← listening (piecesOf call s children)
    let content := if Fetch.allEmpty fetches then [] else Buffer.joinFilled delimiter items
    return [decoration.apply s.locale content]
  | .choose branches => branchPieces call s branches

/-- Render some elements in pieces. -/
def piecesOf (call : String → Rendering Buffer) (s : Setting) :
    List Element → Rendering (List Buffer)
  | [] => return []
  | e :: rest => return (← pieces call s e) ++ (← piecesOf call s rest)

/-- Render the first branch whose condition holds, in pieces. -/
def branchPieces (call : String → Rendering Buffer) (s : Setting) :
    List Branch → Rendering (List Buffer)
  | [] => return []
  | .mk condition children :: rest => do
    if ← takes s condition then piecesOf call s children else branchPieces call s rest

/-- Render the first element that gives output. The variables that it looks up count as absent
from then on. -/
def firstFilled (call : String → Rendering Buffer) (s : Setting) :
    List Element → Rendering Buffer
  | [] => return []
  | e :: rest => do
    let (items, fetches) ← listening (pieces call s e)
    let content := items.flatten
    if content.isEmpty then firstFilled call s rest
    else do
      change (Pass.suppress (Fetch.names fetches))
      return content
end

/-- A macro that is called in vain gives no output. -/
def missCall (name : String) : Rendering Buffer := do
  change fun p => { p with missedCalls := p.missedCalls ++ [name] }
  return []

/-- Render a macro. Every call goes one level down; a macro that is not there or lies too deep is
called in vain. -/
def renderCall (s : Setting) : Nat → String → Rendering Buffer
  | 0, name => missCall name
  | depth + 1, name =>
    match s.macros.lookup name with
    | some children => List.flatten <$> piecesOf (renderCall s depth) s children
    | none => missCall name

/-- Render some elements one after the other, with macros called to some depth. -/
def renderWithin (s : Setting) (depth : Nat) (elements : List Element) : Rendering Buffer :=
  List.flatten <$> piecesOf (renderCall s depth) s elements

/-- Render some elements one after the other. -/
def renderAll (s : Setting) (elements : List Element) : Rendering Buffer :=
  renderWithin s s.callDepth elements

/-- Render an element. -/
def render (s : Setting) (e : Element) : Rendering Buffer := renderAll s [e]

end Element

end CiteStyle
