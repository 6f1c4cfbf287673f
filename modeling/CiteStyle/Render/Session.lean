-- Rendering in place: every element adds to the output on top of a session. An
-- element that has to see its output first collects it in an output of its
-- own, and one that has to know what was looked up listens meanwhile.
import CiteStyle.Render.Element
import CiteStyle.Render.Session.Basic

namespace CiteStyle

open Rendering Session

/-! ## Steps -/

namespace Session

/-- Take a step of the pass, and add its output. -/
def output (step : Setting → Rendering Buffer) : StateM Session Unit := do
  emit (← perform step)

/-- Add what some work gives, decorated. -/
def decorated (d : Decoration) (work : StateM Session Unit) : StateM Session Unit := do
  let content ← inChild work
  emit (d.apply (← get).setting.locale content)

/-- The output on top is empty. -/
def isBlank : StateM Session Bool := return (← get).top.output.isEmpty

end Session

/-! ## Texts and names -/

/-- Render what a text comes from, with a way to render macros. -/
def TextElement.sourceInto (call : String → StateM Session Unit) :
    TextSource → StateM Session Unit
  | .ofVariable name short => do
    match ← perform (fetchText · short name) with
    | some text => output (renderVariable · name text)
    | none => return ()
  | .call name => call name
  | .term name form plural => do
    emit (Buffer.ofText .plain (((← get).setting.locale.term? name form plural).getD ""))
  | .value text => emit (Buffer.ofText .plain text)

namespace NamesFormat

/-- Render the names of one variable with their label. -/
def listInto (f : NamesFormat) (name : String) : StateM Session Unit := do
  match ← perform (fetchNames · name) with
  | none => return ()
  | some names =>
    let item ← inChild do
      output (f.renderLabel · true name)
      let s := (← get).topSetting
      emit (f.name.write s.nameOptions s.locale names)
      output (f.renderLabel · false name)
    emitItem f.delimiter item

/-- Render the names of some variables, each list on its own. -/
def listsInto (f : NamesFormat) : List String → StateM Session Unit
  | [] => return ()
  | name :: rest => do
    f.listInto name
    f.listsInto rest

/-- Render the names of some variables, or only their number, without their decoration. -/
def contentInto (f : NamesFormat) (names : List String) : StateM Session Unit :=
  match f.name.form with
  | .count => do emit (writeCount (← perform (f.countNames · names)))
  | _ => f.listsInto names

end NamesFormat

/-! ## Elements -/

namespace Element

mutual
/-- Render an element. -/
def renderInto (call : String → StateM Session Unit) : Element → StateM Session Unit
  | .text e => decorated e.decoration (TextElement.sourceInto call e.source)
  | .number e => output (NumberElement.render · e)
  | .label e => output (LabelElement.render e · 0)
  | .date e => output (DateElement.render · e)
  | .names subjects format substitute => do
    emit (← inChild do
      decorated format.decoration (format.contentInto subjects)
      if ← isBlank then firstFilledInto call substitute)
  | .group delimiter decoration children => decorated decoration do
    let (heard, items) ← hearing (.counting 0 0) (inChild (itemsInto call delimiter children))
    if heard.allEmpty then return () else emit items
  | .choose branches => branchInto call branches

/-- Render some elements one after the other. -/
def eachInto (call : String → StateM Session Unit) : List Element → StateM Session Unit
  | [] => return ()
  | e :: rest => do
    renderInto call e
    eachInto call rest

/-- Render the items of a group. The elements of the branch that a choice takes are items of
their own. -/
def itemsInto (call : String → StateM Session Unit) (delimiter : String) :
    List Element → StateM Session Unit
  | [] => return ()
  | .choose branches :: rest => do
    branchItemsInto call delimiter branches
    itemsInto call delimiter rest
  | e :: rest => do
    emitItem delimiter (← inChild (renderInto call e))
    itemsInto call delimiter rest

/-- Render the elements of the first branch whose condition holds. -/
def branchInto (call : String → StateM Session Unit) : List Branch → StateM Session Unit
  | [] => return ()
  | .mk condition children :: rest => do
    if ← perform (takes · condition) then eachInto call children
    else branchInto call rest

/-- Render the elements of the first branch whose condition holds as items of a group. -/
def branchItemsInto (call : String → StateM Session Unit) (delimiter : String) :
    List Branch → StateM Session Unit
  | [] => return ()
  | .mk condition children :: rest => do
    if ← perform (takes · condition) then itemsInto call delimiter children
    else branchItemsInto call delimiter rest

/-- Render the first element that gives output. The variables that it looks up count as absent
from then on. -/
def firstFilledInto (call : String → StateM Session Unit) : List Element → StateM Session Unit
  | [] => return ()
  | e :: rest => do
    let (heard, content) ← hearing (.collecting []) (inChild (renderInto call e))
    if content.isEmpty then firstFilledInto call rest
    else do
      perform fun _ => change (Pass.suppress heard.names)
      emit content
end

/-- Render a macro. Every call goes one level down; a macro that is not there or lies too deep is
called in vain. -/
def callInto : Nat → String → StateM Session Unit
  | 0, name => output fun _ => missCall name
  | depth + 1, name => do
    match (← get).setting.macros.lookup name with
    | some children => eachInto (callInto depth) children
    | none => output fun _ => missCall name

end Element

namespace Session

/-- Render some elements into the output on top, with macros called to some depth. -/
def renderEach (depth : Nat) (elements : List Element) : StateM Session Unit :=
  Element.eachInto (Element.callInto depth) elements

/-- Render an element into the output on top. The result is what it adds. -/
def render (e : Element) : StateM Session Buffer := do
  let b ← inChild (renderEach (← get).setting.callDepth [e])
  emit b
  return b

end Session

end CiteStyle
