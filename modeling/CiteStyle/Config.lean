-- Settings that hold for every style that is compiled.
import CiteStyle.Json.Fields

namespace CiteStyle

/-- The settings. -/
structure Config where
  /-- The number of macros that may call each other in a chain. -/
  callDepth : Nat := 32
  /-- The locale of a style that names none. -/
  defaultLocale : String := "en-US"
  /-- The convention for page ranges, in the place of that of the style. -/
  rangeFormat : Option String := none
  deriving DecidableEq, Repr, Inhabited

namespace Config

/-- The names of the fields, in order. -/
def fieldNames : List String := ["max-macro-depth", "default-locale", "page-range-format"]

/-- A count that may be absent; nothing if the value is no whole number. -/
def count? (default : Nat) : Option Json → Option Nat
  | none => some default
  | some (.number n) =>
    match n.value? with
    | some (.whole k) => if 0 ≤ k then some k.toNat else none
    | _ => none
  | some _ => none

/-- A text that may be absent; nothing if the value is no text. -/
def text? (scalars : Json.Scalars) (default : String) : Option Json → Option String
  | none => some default
  | some value => value.textOf? scalars

/-- The settings that a value writes, if it writes any. What is absent has its default. -/
def ofJson? (scalars : Json.Scalars) (value : Json) : Option Config := do
  let fields ← value.knownFields? fieldNames
  let callDepth ← count? 32 (fields.lookup "max-macro-depth")
  let defaultLocale ← text? scalars "en-US" (fields.lookup "default-locale")
  let rangeFormat ← Json.optionalText? scalars (fields.lookup "page-range-format")
  return { callDepth, defaultLocale, rangeFormat }

end Config

end CiteStyle
