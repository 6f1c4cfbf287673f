-- Rendering citations and entries of a bibliography. Every cite is rendered in
-- a pass of its own; only the readers of dates are kept from pass to pass.
import CiteStyle.Locale.English
import CiteStyle.Render.Element
import CiteStyle.Style.Basic

namespace CiteStyle

namespace Style

/-! ## One cite -/

/-- What a cite is rendered by in a layout of a style. -/
def setting (style : Style) (layout : Layout) (record : Record) (locale : Locale)
    (cite : Cite) : Setting where
  record := record
  locale := locale
  cite := cite
  nameOptions := style.nameOptions.merge layout.nameOptions
  macros := style.macros
  callDepth := style.callDepth
  rangeFormat := style.rangeFormat
  fallback := some Locale.english

/-- The pass over the elements of a layout for a cite. -/
def renderPass (style : Style) (layout : Layout) (locale : Locale) (record : Record)
    (cite : Cite) : Rendering Buffer :=
  Element.renderAll (style.setting layout record locale cite) layout.elements

/-- The elements of a layout for a cite, without the decoration of the layout. -/
def renderBody (style : Style) (layout : Layout) (locale : Locale) (record : Record)
    (cite : Cite) : StateM DateReaders Buffer := fun readers =>
  let (content, _, pass) := style.renderPass layout locale record cite { readers }
  (content, pass.readers)

/-- A cite in a layout of a style. -/
def renderIn (style : Style) (layout : Layout) (locale : Locale) (record : Record)
    (cite : Cite) : StateM DateReaders Buffer :=
  layout.decoration.apply locale <$> style.renderBody layout locale record cite

/-- A citation of one work. -/
def renderCite (style : Style) (locale : Locale) (record : Record) (cite : Cite) :
    StateM DateReaders Buffer :=
  style.renderIn style.citation locale record cite

/-- The entry of a work in the bibliography; nothing if the style has none. -/
def renderEntry (style : Style) (locale : Locale) (record : Record) :
    StateM DateReaders Buffer :=
  match style.bibliography with
  | some layout => style.renderIn layout locale record {}
  | none => return []

/-! ## Several cites -/

/-- The elements of the citation layout for each of some cites. -/
def renderBodies (style : Style) (locale : Locale) :
    List (Record × Cite) → StateM DateReaders (List Buffer)
  | [] => return []
  | (record, cite) :: rest => do
    let first ← style.renderBody style.citation locale record cite
    return first :: (← style.renderBodies locale rest)

/-- A citation of several works. -/
def renderCitation (style : Style) (locale : Locale) (cites : List (Record × Cite)) :
    StateM DateReaders Buffer := do
  let bodies ← style.renderBodies locale cites
  let content := Buffer.joinFilled (style.citation.delimiter.getD "") bodies
  return style.citation.decoration.apply locale content

end Style

end CiteStyle
