-- Dates in JSON. Reading is lenient: parts may be numbers or texts of
-- digits, and a season and a mark of approximation may be any scalar.
import CiteStyle.Date.Basic
import CiteStyle.Json.Fields
import CiteStyle.Json.Writer
import CiteStyle.Text.Cut

namespace CiteStyle.Date

open Text Decimal

/-! ## Scalars -/

/-- A scalar of a date. -/
inductive Scalar where
  | whole (n : Int)
  | real (x : Binary64)
  | bool (value : Bool)
  | text (value : String)
  deriving DecidableEq, Repr

/-- The scalar that a value is. A whole number beyond 64 bits with sign is a floating-point
number. -/
def Scalar.ofJson? : Json → Option Scalar
  | .number n =>
    match n.value? with
    | some (.whole k) =>
      if k ≤ maxSigned64 then some (.whole k)
      else (Binary64.ofRatio? false k.natAbs 1).map .real
    | some (.real x) => some (.real x)
    | none => none
  | .bool b => some (.bool b)
  | .text s => some (.text s)
  | _ => none

/-- A scalar that may be absent or null; nothing if the value is no scalar. -/
def optionalScalar? : Option Json → Option (Option Scalar)
  | none => some none
  | some .null => some none
  | some value => (Scalar.ofJson? value).map some

/-! ## Parts -/

/-- The smallest and the largest part of a date. -/
def clampPart (n : Int) : Int := max (-2147483648) (min n 2147483647)

/-- The part of a date that a scalar gives, if it gives one. -/
def Scalar.part? : Scalar → Option Int
  | .whole n => if clampPart n = n then some n else none
  | .real x => some (clampPart x.truncate)
  | .bool _ => none
  | .text s => readInt? maxSigned32 (trimChars s.toList)

/-- The leading scalars that give a part, and of these the first three. -/
def leadingParts (scalars : List Scalar) : List Int :=
  ((scalars.map Scalar.part?).takeWhile Option.isSome).filterMap id |>.take 3

/-- One list of parts. -/
def partList? : Json → Option (List Int)
  | .array items => (items.mapM Scalar.ofJson?).map leadingParts
  | _ => none

/-- The lists of parts of a date. -/
def partLists? : Option Json → Option (List (List Int))
  | none => some []
  | some .null => some []
  | some (.array items) => items.mapM partList?
  | some _ => none

/-! ## Other fields -/

/-- The season that a scalar names. -/
def Scalar.season? : Scalar → Option String
  | .text s => some s
  | .whole n => some (Number.whole n).plainText
  | .real x => some (Number.real x).plainText
  | .bool _ => none

/-- Whether a scalar marks a date as approximate. -/
def Scalar.isTrue : Scalar → Bool
  | .bool b => b
  | .whole n => n != 0
  | .real x => !x.isZero
  | .text s => s != "" && s != "0" && s != "false"

/-! ## Whole dates -/

/-- The names of the fields, in order. -/
def fieldNames : List String := ["date-parts", "season", "literal", "raw", "circa"]

/-- The date that a value writes, if it writes one. -/
def ofJson? (value : Json) : Option Date := do
  let fields ← value.knownFields? fieldNames
  let parts ← partLists? (fields.lookup "date-parts")
  let season ← optionalScalar? (fields.lookup "season")
  let literal ← Json.optionalText? .strict (fields.lookup "literal")
  let raw ← Json.optionalText? .strict (fields.lookup "raw")
  let circa ← optionalScalar? (fields.lookup "circa")
  return { parts, season := season.bind Scalar.season?, literal, raw,
           circa := (circa.map Scalar.isTrue).getD false }

/-- The value that writes a date. What is not set is left out, but for the mark of
approximation. -/
def toJson (d : Date) : Json :=
  let text (name : String) (value : Option String) : List (String × Json) :=
    (value.map fun s => (name, Json.text s)).toList
  let parts : List (String × Json) :=
    if d.parts.isEmpty then []
    else [("date-parts", .array (d.parts.map fun ps => .array (ps.map Json.ofInt)))]
  .object (parts ++ text "season" d.season ++ text "literal" d.literal ++ text "raw" d.raw
    ++ [("circa", .bool d.circa)])

end CiteStyle.Date
