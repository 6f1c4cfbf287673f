-- Reading a style from XML, and checking its macros.
import CiteStyle.Config
import CiteStyle.Style.ElementXml
import CiteStyle.Style.Macros

namespace CiteStyle

/-! ## Layouts -/

/-- The layout of an element, whose child of that name holds the elements. -/
def Layout.ofXml (e : Xml.Element) : Except StyleFault Layout := do
  let nameOptions ← NameOptions.ofXml e
  match e.child? "layout" with
  | none => .error (.missingAttribute e.name "layout")
  | some layout => return {
      elements := ← Element.listOfXml layout.children
      decoration := (Decoration.ofXml layout).outer.inline
      delimiter := layout.attr? "delimiter"
      nameOptions }

/-- The macros that the elements of a layout call. -/
def Layout.calls (l : Layout) : List String := Element.callsOf l.elements

/-! ## Sections -/

/-- What the children of a style hold. -/
structure Sections where
  title : Option String := none
  macros : Macros := []
  citation : Option Layout := none
  bibliography : Option Layout := none

/-- Take in one more child of a style. Of what is given more than once the last counts. -/
def Sections.add (found : Sections) (e : Xml.Element) : Except StyleFault Sections := do
  match e.name with
  | "info" => return { found with title := (e.child? "title").bind (·.text) }
  | "macro" => do
    let name ← required e "name"
    return { found with macros := putEntry name (← Element.listOfXml e.children) found.macros }
  | "citation" => return { found with citation := some (← Layout.ofXml e) }
  | "bibliography" => return { found with bibliography := some (← Layout.ofXml e) }
  | _ => return found

/-! ## Styles -/

namespace Style

/-- The convention for page ranges: the one of the settings, or else that of the style, where
one that is not known counts as none. -/
def rangeFormatOf (config : Config) (e : Xml.Element) :
    Except StyleFault (Option Pages.RangeFormat) :=
  match config.rangeFormat with
  | none => .ok ((e.attr? "page-range-format").bind Pages.RangeFormat.ofName?)
  | some name =>
    match Pages.RangeFormat.ofName? name with
    | some format => .ok (some format)
    | none => .error (.unknownRangeFormat name)

/-- The macros that the layouts of a style call. -/
def layoutCalls (style : Style) : List String := style.layouts.flatMap Layout.calls

/-- Read a style without a check of its macros. -/
def unchecked (config : Config) (e : Xml.Element) : Except StyleFault Style := do
  let found ← e.children.foldlM Sections.add {}
  match found.citation with
  | none => .error (.missingLayout "citation")
  | some citation => do
    let rangeFormat ← rangeFormatOf config e
    return {
      title := found.title
      macros := found.macros
      citation
      bibliography := found.bibliography
      nameOptions := ← NameOptions.ofXml e
      rangeFormat
      defaultLocale := (e.attr? "default-locale").getD config.defaultLocale
      callDepth := config.callDepth }

/-- Read a style. -/
def ofXml (config : Config) (e : Xml.Element) : Except StyleFault Style := do
  let style ← unchecked config e
  style.macros.check style.callDepth style.layoutCalls
  return style

end Style

end CiteStyle
