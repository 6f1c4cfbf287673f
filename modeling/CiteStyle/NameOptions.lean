-- Options of names that pass down from a style to its layouts and from there
-- to the names. What is not set at one level is taken from the level above.
import CiteStyle.Style.Fault
import CiteStyle.Text.Integer
import CiteStyle.Xml.Element

namespace CiteStyle

open Text

/-! ## Values -/

/-- How the last name is joined to the others. -/
inductive LastJoint where
  /-- By the term of the locale between spaces. -/
  | text
  /-- By an ampersand. -/
  | symbol
  deriving DecidableEq, Repr

/-- The name of a joint. -/
def LastJoint.name : LastJoint → String
  | .text => "text"
  | .symbol => "symbol"

/-- When a delimiter stands in front of the last name, or of what stands for the names that
are left out. -/
inductive DelimiterRule where
  | contextual
  | afterInvertedName
  | always
  | never
  deriving DecidableEq, Repr

/-- The names of the rules. -/
def DelimiterRule.names : List (String × DelimiterRule) :=
  [("contextual", .contextual), ("after-inverted-name", .afterInvertedName),
   ("always", .always), ("never", .never)]

/-- The rule that a name stands for. -/
def DelimiterRule.ofName? (name : String) : Option DelimiterRule := names.lookup name

/-- The name of a rule. -/
def DelimiterRule.name : DelimiterRule → String
  | .contextual => "contextual"
  | .afterInvertedName => "after-inverted-name"
  | .always => "always"
  | .never => "never"

/-- Which names have their family part in front. -/
inductive Inverted where
  | first
  | all
  deriving DecidableEq, Repr

/-- The names of the choices. -/
def Inverted.names : List (String × Inverted) := [("first", .first), ("all", .all)]

/-- The choice that a name stands for. -/
def Inverted.ofName? (name : String) : Option Inverted := names.lookup name

/-- The name of a choice. -/
def Inverted.name : Inverted → String
  | .first => "first"
  | .all => "all"

/-! ## Options -/

/-- The options, each of which may be unset. -/
structure NameOptions where
  and : Option LastJoint := none
  delimiterPrecedesEtAl : Option DelimiterRule := none
  delimiterPrecedesLast : Option DelimiterRule := none
  /-- Words are cut to initials. -/
  shorten : Option Bool := none
  initializeWith : Option String := none
  inverted : Option Inverted := none
  sortSeparator : Option String := none
  etAlMin : Option Nat := none
  etAlUseFirst : Option Nat := none
  deriving DecidableEq, Repr, Inhabited

namespace NameOptions

/-- No option is set. -/
def isUnset (o : NameOptions) : Bool := o = {}

/-- What the inner options set, and from the outer what the inner leave unset. -/
def merge (outer inner : NameOptions) : NameOptions where
  and := inner.and.or outer.and
  delimiterPrecedesEtAl := inner.delimiterPrecedesEtAl.or outer.delimiterPrecedesEtAl
  delimiterPrecedesLast := inner.delimiterPrecedesLast.or outer.delimiterPrecedesLast
  shorten := inner.shorten.or outer.shorten
  initializeWith := inner.initializeWith.or outer.initializeWith
  inverted := inner.inverted.or outer.inverted
  sortSeparator := inner.sortSeparator.or outer.sortSeparator
  etAlMin := inner.etAlMin.or outer.etAlMin
  etAlUseFirst := inner.etAlUseFirst.or outer.etAlUseFirst

/-! ## Defaults -/

/-- The rule for what stands for the names that are left out. -/
def etAlRule (o : NameOptions) : DelimiterRule := o.delimiterPrecedesEtAl.getD .contextual

/-- The rule for the last name. -/
def lastRule (o : NameOptions) : DelimiterRule := o.delimiterPrecedesLast.getD .contextual

/-- Words are cut to initials. -/
def initializes (o : NameOptions) : Bool := o.shorten.getD true

/-- What stands between the parts of an inverted name. -/
def separator (o : NameOptions) : String := o.sortSeparator.getD ", "

/-- How many of some names are written, if not all are. -/
def limit? (o : NameOptions) (count : Nat) : Option Nat :=
  match o.etAlMin, o.etAlUseFirst with
  | some least, some first => if least ≤ count then some first else none
  | _, _ => none

/-! ## Reading -/

/-- The joint that an element asks for. -/
def jointOf (e : Xml.Element) : Except StyleFault (Option LastJoint) :=
  match e.attr? "and" with
  | none => .ok none
  | some "text" => .ok (some .text)
  | some "symbol" => .ok (some .symbol)
  | some value => .error (.unknownAnd value)

/-- A number of names that an element gives. -/
def countOf (e : Xml.Element) (name : String) : Option Nat :=
  (e.attr? name).bind fun s => readNat? maxUnsigned64 (trimChars s.toList)

/-- The options that an element sets. Apart from the joint, a value that is not known sets
nothing. -/
def ofXml (e : Xml.Element) : Except StyleFault NameOptions := do
  return {
    and := ← jointOf e
    delimiterPrecedesEtAl := (e.attr? "delimiter-precedes-et-al").bind DelimiterRule.ofName?
    delimiterPrecedesLast := (e.attr? "delimiter-precedes-last").bind DelimiterRule.ofName?
    shorten := e.flag? "initialize"
    initializeWith := e.attr? "initialize-with"
    inverted := (e.attr? "name-as-sort-order").bind Inverted.ofName?
    sortSeparator := e.attr? "sort-separator"
    etAlMin := countOf e "et-al-min"
    etAlUseFirst := countOf e "et-al-use-first" }

end NameOptions

end CiteStyle
