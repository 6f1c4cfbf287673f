-- A style: its macros, and the layouts of its citations and of its
-- bibliography.
import CiteStyle.Pages.RangeFormat
import CiteStyle.Style.Element

namespace CiteStyle

/-- The layout of a citation or of an entry of a bibliography. -/
structure Layout where
  elements : List Element
  decoration : Decoration := {}
  /-- What stands between the cites of a citation. -/
  delimiter : Option String := none
  nameOptions : NameOptions := {}

/-- A style. -/
structure Style where
  title : Option String := none
  macros : Macros := []
  citation : Layout
  bibliography : Option Layout := none
  nameOptions : NameOptions := {}
  rangeFormat : Option Pages.RangeFormat := none
  defaultLocale : String := "en-US"
  /-- The number of macros that may call each other in a chain. -/
  callDepth : Nat := 0

/-- The layouts of a style. -/
def Style.layouts (style : Style) : List Layout := style.citation :: style.bibliography.toList

end CiteStyle
