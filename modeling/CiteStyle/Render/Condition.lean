-- When a branch of a choice is taken.
import CiteStyle.Locator
import CiteStyle.Numeric
import CiteStyle.Render.Setting

namespace CiteStyle

/-- As many results hold as are asked for. -/
def Match.accepts (mode : Match) (results : List Bool) : Bool :=
  match mode with
  | .all => results.all id
  | .any => results.any id
  | .none => !results.any id

namespace Condition

/-- A condition has a test. -/
def hasTests (c : Condition) : Bool :=
  [c.types, c.present, c.numeric, c.numbers, c.positions, c.uncertain].any (!·.isEmpty)

/-- What the number of a work counts: its first label, or number if it has none. -/
def countedBy (s : Setting) (suppressed : List String) : String :=
  match (s.text? suppressed false "number").map Locator.parts with
  | some (part :: _) => part.label.getD "number"
  | _ => "number"

/-- A variable has a text of numbers. -/
def isNumeric (s : Setting) (suppressed : List String) (name : String) : Bool :=
  match s.value? suppressed name with
  | some (.text text) => Numeric.isNumeric text
  | _ => false

/-- The results of all tests but those of the position. -/
def results (c : Condition) (s : Setting) (suppressed : List String) : List Bool :=
  c.types.map (· == s.record.type)
    ++ c.present.map (fun name => (s.value? suppressed name).isSome)
    ++ c.numeric.map (isNumeric s suppressed)
    ++ c.numbers.map (· == countedBy s suppressed)
    ++ c.uncertain.map (fun name => (s.date? suppressed name).any (·.circa))

/-- The results of the tests of the position. Of a cite without a position they cannot all
hold, and none of them counts otherwise. -/
def positionResults (c : Condition) (s : Setting) : List Bool :=
  match s.cite.position with
  | some position => c.positions.map position.satisfies
  | none => if c.mode = .all && !c.positions.isEmpty then [false] else []

/-- A condition holds; one without a test never does. -/
def holds (c : Condition) (s : Setting) (suppressed : List String) : Bool :=
  c.hasTests && c.mode.accepts (c.results s suppressed ++ c.positionResults s)

end Condition

end CiteStyle
