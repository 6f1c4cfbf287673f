-- Rendering cites in place. Every cite has a session of its own, to which the
-- elements of a layout are added. A citation of several works collects what the
-- sessions of its cites hold, one after the other.
import CiteStyle.Render.Session
import CiteStyle.Render.Style

namespace CiteStyle

open Session

/-- Add the elements of a layout, whose names have the options of the layout. -/
def Layout.renderInto (layout : Layout) : StateM Session Unit := do
  child layout.nameOptions
  renderEach (← get).setting.callDepth layout.elements
  merge

namespace Style

/-- The session of a cite, at its start. -/
def session (style : Style) (layout : Layout) (locale : Locale) (record : Record) (cite : Cite)
    (readers : DateReaders) : Session where
  setting := style.setting layout record locale cite
  pass := { readers }
  top := { nameOptions := style.nameOptions }

/-- A cite in a layout of a style, in a session of its own. -/
def renderInPlace (style : Style) (layout : Layout) (locale : Locale) (record : Record)
    (cite : Cite) : StateM DateReaders Buffer := fun readers =>
  let start := style.session layout locale record cite readers
  let after := (decorated layout.decoration layout.renderInto start).2
  (after.top.output, after.pass.readers)

/-- Add what the sessions of some cites hold to what is collected so far. -/
def collectCites (style : Style) (locale : Locale) (collected : Buffer) :
    List (Record × Cite) → StateM DateReaders Buffer
  | [] => return collected
  | (record, cite) :: rest => fun readers =>
    let after :=
      (style.citation.renderInto (style.session style.citation locale record cite readers)).2
    let collected :=
      collected.appendItem (style.citation.delimiter.getD "") after.top.output
    style.collectCites locale collected rest after.pass.readers

/-- A citation of several works, with every cite in a session of its own. -/
def citationInPlace (style : Style) (locale : Locale) (cites : List (Record × Cite)) :
    StateM DateReaders Buffer := do
  let collected ← style.collectCites locale [] cites
  let d := style.citation.decoration
  return d.affixes.apply (collected.wrap d.formatting)

end Style

end CiteStyle
