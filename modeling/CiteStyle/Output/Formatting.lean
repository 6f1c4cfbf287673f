-- Formatting of text: five attributes, each of which may be unset. Inner
-- formatting laid over outer formatting keeps what only the outer one sets.
namespace CiteStyle

/-! ## Attributes -/

/-- The slant of a font. -/
inductive FontStyle where
  | normal
  | italic
  | oblique
  deriving DecidableEq, Repr

/-- The form of small letters. -/
inductive FontVariant where
  | normal
  | smallCaps
  deriving DecidableEq, Repr

/-- The weight of a font. -/
inductive FontWeight where
  | normal
  | bold
  | light
  deriving DecidableEq, Repr

/-- A line along the text. -/
inductive TextDecoration where
  | none
  | underline
  deriving DecidableEq, Repr

/-- The height at which the text stands. -/
inductive VerticalAlign where
  | baseline
  | sup
  | sub
  deriving DecidableEq, Repr

/-- The names of the values of an attribute, each at the number that stands for it. -/
def FontStyle.names : List (String × FontStyle) :=
  [("normal", .normal), ("italic", .italic), ("oblique", .oblique)]

/-- The names of the values of an attribute, each at the number that stands for it. -/
def FontVariant.names : List (String × FontVariant) :=
  [("normal", .normal), ("small-caps", .smallCaps)]

/-- The names of the values of an attribute, each at the number that stands for it. -/
def FontWeight.names : List (String × FontWeight) :=
  [("normal", .normal), ("bold", .bold), ("light", .light)]

/-- The names of the values of an attribute, each at the number that stands for it. -/
def TextDecoration.names : List (String × TextDecoration) :=
  [("none", .none), ("underline", .underline)]

/-- The names of the values of an attribute, each at the number that stands for it. -/
def VerticalAlign.names : List (String × VerticalAlign) :=
  [("baseline", .baseline), ("sup", .sup), ("sub", .sub)]

/-! ## Formatting -/

/-- The formatting of a text; what is not set is left to whatever surrounds it. -/
structure Formatting where
  fontStyle : Option FontStyle := none
  fontVariant : Option FontVariant := none
  fontWeight : Option FontWeight := none
  textDecoration : Option TextDecoration := none
  verticalAlign : Option VerticalAlign := none
  deriving DecidableEq, Repr, Inhabited

namespace Formatting

/-- Formatting that sets nothing. -/
def unset : Formatting := {}

/-- Nothing is set. -/
def isUnset (f : Formatting) : Bool := f = unset

/-- What the inner formatting sets, and from the outer what the inner leaves unset. -/
def merge (outer inner : Formatting) : Formatting where
  fontStyle := inner.fontStyle.or outer.fontStyle
  fontVariant := inner.fontVariant.or outer.fontVariant
  fontWeight := inner.fontWeight.or outer.fontWeight
  textDecoration := inner.textDecoration.or outer.textDecoration
  verticalAlign := inner.verticalAlign.or outer.verticalAlign

/-- Set one attribute by its name and the name of its value. Other names change nothing. -/
def set (f : Formatting) (name value : String) : Formatting :=
  match name with
  | "font-style" => { f with fontStyle := (FontStyle.names.lookup value).or f.fontStyle }
  | "font-variant" => { f with fontVariant := (FontVariant.names.lookup value).or f.fontVariant }
  | "font-weight" => { f with fontWeight := (FontWeight.names.lookup value).or f.fontWeight }
  | "text-decoration" =>
    { f with textDecoration := (TextDecoration.names.lookup value).or f.textDecoration }
  | "vertical-align" =>
    { f with verticalAlign := (VerticalAlign.names.lookup value).or f.verticalAlign }
  | _ => f

/-- The names of the attributes. -/
def attributeNames : List String :=
  ["font-style", "font-variant", "font-weight", "text-decoration", "vertical-align"]

/-- The formatting that attributes describe. -/
def ofAttributes (attr? : String → Option String) : Formatting :=
  attributeNames.foldl (fun f name => ((attr? name).map (f.set name)).getD f) unset

/-! ## Text and number -/

/-- The value that is set, by its name and by its number, which counts from one. -/
def setting? [DecidableEq α] (names : List (String × α)) (value : Option α) :
    Option (String × Nat) := do
  let value ← value
  let place ← names.findIdx? (·.2 = value)
  let (name, _) ← names[place]?
  return (name, place + 1)

/-- The settings in order, each under the name of its attribute. -/
def settings (f : Formatting) : List (String × Option (String × Nat)) :=
  [("font-style", setting? FontStyle.names f.fontStyle),
   ("font-variant", setting? FontVariant.names f.fontVariant),
   ("font-weight", setting? FontWeight.names f.fontWeight),
   ("text-decoration", setting? TextDecoration.names f.textDecoration),
   ("vertical-align", setting? VerticalAlign.names f.verticalAlign)]

/-- The formatting as one number, with two binary digits for each attribute and the first
attribute lowest. -/
def bits (f : Formatting) : Nat :=
  f.settings.foldr (fun setting n => 4 * n + ((setting.2.map (·.2)).getD 0)) 0

/-- The formatting as text. -/
def text (f : Formatting) : String :=
  let set := f.settings.filterMap fun (name, setting) =>
    setting.map fun (value, _) => name ++ ": " ++ value
  "\x7b" ++ String.intercalate ", " set ++ "\x7d"

end Formatting

/-! ## Display -/

/-- The layout of a piece of a bibliography entry. -/
inductive Display where
  | block
  | leftMargin
  | rightInline
  | indent
  deriving DecidableEq, Repr

namespace Display

/-- The display that a name stands for. -/
def ofName? : String → Option Display
  | "block" => some .block
  | "left-margin" => some .leftMargin
  | "right-inline" => some .rightInline
  | "indent" => some .indent
  | _ => none

/-- The name of a display. -/
def name : Display → String
  | .block => "block"
  | .leftMargin => "left-margin"
  | .rightInline => "right-inline"
  | .indent => "indent"

end Display

end CiteStyle
