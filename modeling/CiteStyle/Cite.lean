-- A cite: one reference to a work, with the place in the work that it points
-- to and where the cite stands among others.
import CiteStyle.Json.Fields

namespace CiteStyle

/-! ## Positions -/

/-- Where a cite stands among the earlier cites of the same work. -/
inductive Position where
  | first
  | subsequent
  | ibid
  | ibidWithLocator
  | nearNote
  deriving DecidableEq, Repr

namespace Position

/-- The position that a name stands for. -/
def ofName? : String → Option Position
  | "first" => some .first
  | "subsequent" => some .subsequent
  | "ibid" => some .ibid
  | "ibid-with-locator" => some .ibidWithLocator
  | "near-note" => some .nearNote
  | _ => none

/-- The name of a position. -/
def name : Position → String
  | .first => "first"
  | .subsequent => "subsequent"
  | .ibid => "ibid"
  | .ibidWithLocator => "ibid-with-locator"
  | .nearNote => "near-note"

/-- A cite in a position passes a test for a position of a name. Every cite but the first is
a subsequent one, and one with a locator may stand for ibid alone. -/
def satisfies (p : Position) : String → Bool
  | "first" => p = .first
  | "subsequent" => p ≠ .first
  | "ibid" => p = .ibid || p = .ibidWithLocator
  | "ibid-with-locator" => p = .ibidWithLocator
  | "near-note" => p = .nearNote
  | _ => false

end Position

/-! ## Cites -/

/-- What a cite says beyond the work that it cites. -/
structure Cite where
  locator : Option String := none
  /-- The term for the locator, such as page or chapter. -/
  label : Option String := none
  position : Option Position := none
  deriving DecidableEq, Repr, Inhabited

namespace Cite

/-- The names of the fields, in order. -/
def fieldNames : List String := ["locator", "label", "position"]

/-- A position that may be absent or null; nothing if the value names none. -/
def position? : Option Json → Option (Option Position)
  | none => some none
  | some .null => some none
  | some value => ((value.choice? .strict).bind Position.ofName?).map some

/-- The cite that a value writes, if it writes one. -/
def ofJson? (value : Json) : Option Cite := do
  let fields ← value.knownFields? fieldNames
  let locator ← Json.optionalText? .strict (fields.lookup "locator")
  let label ← Json.optionalText? .strict (fields.lookup "label")
  let position ← position? (fields.lookup "position")
  return { locator, label, position }

end Cite

end CiteStyle
