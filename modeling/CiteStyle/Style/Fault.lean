-- What can be wrong with a style.
import CiteStyle.Text.Integer

namespace CiteStyle

/-- A fault of a style. -/
inductive StyleFault where
  | missingAttribute (element name : String)
  | multipleIf
  | elseIfWithoutIf
  | elementAfterElse (element : String)
  | multipleElse
  | unknownConditional (element : String)
  | unknownAnd (value : String)
  | unknownMatch (value : String)
  | unknownDatePart (name : String)
  | duplicateDatePart (name : String)
  | unknownNamePart (name : String)
  | duplicateNamePart (name : String)
  | unknownTermForm (name : String)
  | unknownMacro (name : String)
  /-- Macros that call each other in a circle, the first one again at the end. -/
  | macroRecursion (circle : List String)
  /-- Macros call each other in a chain that is longer than a limit. -/
  | macroDepth (limit : Nat)
  | missingLayout (element : String)
  | unknownRangeFormat (name : String)
  deriving DecidableEq, Repr

namespace StyleFault

/-- A name in marks that set it apart. -/
def marked (name : String) : String := "`" ++ name ++ "`"

/-- What a fault says. -/
def message : StyleFault → String
  | .missingAttribute element name =>
    "<" ++ element ++ "> is missing required attribute " ++ marked name
  | .multipleIf => "<choose> contains more than one <if>"
  | .elseIfWithoutIf => "<else-if> without a preceding <if>"
  | .elementAfterElse element => "<" ++ element ++ "> follows <else>"
  | .multipleElse => "<choose> contains more than one <else>"
  | .unknownConditional element => "unknown conditional element <" ++ element ++ ">"
  | .unknownAnd value => "unknown value for " ++ marked "and" ++ ": " ++ value
  | .unknownMatch value => "unknown match mode: " ++ value
  | .unknownDatePart name => "unknown date part: " ++ name
  | .duplicateDatePart name => "date part " ++ marked name ++ " is given more than once"
  | .unknownNamePart name => "unknown name part: " ++ name
  | .duplicateNamePart name => "name part " ++ marked name ++ " is given more than once"
  | .unknownTermForm name => "unknown term form: " ++ name
  | .unknownMacro name => "reference to undefined macro " ++ marked name
  | .macroRecursion circle => "recursive macro reference: " ++ String.intercalate " -> " circle
  | .macroDepth limit =>
    "macro nesting deeper than " ++ String.ofList (Text.decimalDigits limit) ++ " levels"
  | .missingLayout element => "style has no <" ++ element ++ "> layout"
  | .unknownRangeFormat name => "unknown page range format: " ++ name

end StyleFault

end CiteStyle
