-- Terms of a locale: words and phrases in one of several forms, each with a
-- singular and a plural.
namespace CiteStyle

/-! ## Faults -/

/-- A name in locale data, or in a style that refers to it, that stands for nothing. -/
inductive LocaleFault where
  | unknownTermForm (name : String)
  | unknownDateForm (name : String)
  | unknownDatePart (name : String)
  deriving DecidableEq, Repr

/-- What a fault says. -/
def LocaleFault.message : LocaleFault → String
  | .unknownTermForm name => "unknown term form: " ++ name
  | .unknownDateForm name => "unknown date form: " ++ name
  | .unknownDatePart name => "unknown date part: " ++ name

/-! ## Forms -/

/-- The form of a term. -/
inductive TermForm where
  | long
  | short
  | verb
  | verbShort
  | symbol
  deriving DecidableEq, Repr

namespace TermForm

/-- The form to look in when a term is not there in this one. -/
def fallback : TermForm → Option TermForm
  | .long => none
  | .short => some .long
  | .verb => some .long
  | .verbShort => some .verb
  | .symbol => some .short

/-- A form and all that stand in for it, in the order in which they are tried. -/
def withFallbacks : TermForm → List TermForm
  | .long => [.long]
  | .short => [.short, .long]
  | .verb => [.verb, .long]
  | .verbShort => [.verbShort, .verb, .long]
  | .symbol => [.symbol, .short, .long]

/-- The form that a name stands for. -/
def ofName : String → Except LocaleFault TermForm
  | "long" => .ok .long
  | "short" => .ok .short
  | "verb" => .ok .verb
  | "verb-short" => .ok .verbShort
  | "symbol" => .ok .symbol
  | name => .error (.unknownTermForm name)

/-- The name of a form. -/
def name : TermForm → String
  | .long => "long"
  | .short => "short"
  | .verb => "verb"
  | .verbShort => "verb-short"
  | .symbol => "symbol"

end TermForm

/-! ## Terms -/

/-- A term in one form. -/
structure Term where
  name : String
  form : TermForm
  single : String
  multiple : String
  deriving DecidableEq, Repr

namespace Term

/-- The text of a term, in the plural or not. -/
def value (t : Term) (plural : Bool) : String := if plural then t.multiple else t.single

end Term

end CiteStyle
