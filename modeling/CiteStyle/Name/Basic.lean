-- Names of people and of institutions, as a record holds them.
namespace CiteStyle

/-- A name. One with a literal is written as that literal; its other parts do not
count. -/
structure Name where
  family : Option String := none
  given : Option String := none
  /-- A particle that short forms leave out, such as de in Ludwig de Beethoven. -/
  droppingParticle : Option String := none
  /-- A particle that stays with the family name, such as van in Vincent van Gogh. -/
  nonDroppingParticle : Option String := none
  /-- A suffix such as Jr. or III. -/
  ending : Option String := none
  literal : Option String := none
  deriving DecidableEq, Repr, Inhabited

namespace Name

/-- A name from its family part and its given part. -/
def ofParts (family given : String) : Name := { family := some family, given := some given }

/-- A name that is written as it is. -/
def ofLiteral (text : String) : Name := { literal := some text }

/-- A name that is written as it is. -/
def isLiteral (n : Name) : Bool := n.literal.isSome

end Name

end CiteStyle
