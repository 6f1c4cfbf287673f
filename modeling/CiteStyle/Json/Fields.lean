-- Reading a JSON value as a record with known fields. The fields stand in an
-- object under their names, or in an array in their order.
import CiteStyle.Json.Basic

namespace CiteStyle.Json

/-! ## Fields -/

/-- No name stands twice. -/
def distinct : List String → Bool
  | [] => true
  | name :: rest => !rest.contains name && distinct rest

/-- The known fields of a value. An object may have other fields too, but a known one only
once; an array may end early, but has no more items than there are fields. -/
def knownFields? (names : List String) : Json → Option (List (String × Json))
  | .object fields =>
    let known := fields.filter fun field => names.contains field.1
    if distinct (known.map (·.1)) then some known else none
  | .array items => if items.length ≤ names.length then some (names.zip items) else none
  | _ => none

mutual
/-- The value with every name once in each of its objects. -/
def settled : Json → Json
  | .array items => .array (settledItems items)
  | .object fields => .object (lastWins (settledFields fields))
  | value => value

/-- The items of an array, each settled. -/
def settledItems : List Json → List Json
  | [] => []
  | item :: rest => item.settled :: settledItems rest

/-- The fields of an object, each settled. -/
def settledFields : List (String × Json) → List (String × Json)
  | [] => []
  | (name, value) :: rest => (name, value.settled) :: settledFields rest
end

mutual
/-- The value with every number in it replaced. -/
def mapNumbers (f : Numeral → Json) : Json → Json
  | .number n => f n
  | .array items => .array (mapItems f items)
  | .object fields => .object (mapFields f fields)
  | value => value

/-- The items of an array with every number in them replaced. -/
def mapItems (f : Numeral → Json) : List Json → List Json
  | [] => []
  | item :: rest => item.mapNumbers f :: mapItems f rest

/-- The fields of an object with every number in them replaced. -/
def mapFields (f : Numeral → Json) : List (String × Json) → List (String × Json)
  | [] => []
  | (name, value) :: rest => (name, value.mapNumbers f) :: mapFields f rest
end

/-- The value with every number in the usual spelling of what it stands for. -/
def respelled (value : Json) : Json :=
  value.mapNumbers fun n => .number ((n.value?.map Number.numeral).getD n)

/-! ## Scalars -/

/-- How strictly scalars are read: as they are, or so that each can stand for its text. -/
inductive Scalars where
  | strict
  | textual
  deriving DecidableEq, Repr

/-- How many arrays and objects may stand around each other. -/
def Scalars.maxDepth : Scalars → Nat
  | .strict => 127
  | .textual => 128

/-- A value that a program may hold as it is, below `above` arrays and objects: all of it can
be read, and nesting is bounded. -/
def isPlain (scalars : Scalars) (above : Nat) (value : Json) : Bool :=
  value.hasValues && above + value.depth ≤ scalars.maxDepth

/-- The text of a scalar. That of a number is its spelling. -/
def textOf? (scalars : Scalars) : Json → Option String
  | .text s => some s
  | .number n => if scalars = .textual then some n.written else none
  | .bool b => if scalars = .textual then some (if b then "true" else "false") else none
  | .null => if scalars = .textual then some "null" else none
  | _ => none

/-- An optional text: absent, null or a text. The outer result is nothing if the field
holds anything else. -/
def optionalText? (scalars : Scalars) : Option Json → Option (Option String)
  | none => some none
  | some .null => some none
  | some value => (value.textOf? scalars).map some

/-- The name of a choice: a text. Where scalars are strict, an object whose only field is
that name over a null will do as well. -/
def choice? (scalars : Scalars) : Json → Option String
  | .text s => some s
  | .object [(name, .null)] => if scalars = .strict then some name else none
  | _ => none

end CiteStyle.Json
