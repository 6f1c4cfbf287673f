-- Writing a list of names: the parts of each name in the order that the
-- options ask for, what stands between the names, and what stands for those
-- that are left out.
import CiteStyle.Name.Basic
import CiteStyle.Name.Initials
import CiteStyle.Style.Element

namespace CiteStyle

open Text

/-! ## Options -/

namespace DelimiterRule

/-- A rule asks for the delimiter, given what the number of the names asks for and whether the
name in front of it is inverted. -/
def applies (rule : DelimiterRule) (contextual inverted : Bool) : Bool :=
  match rule with
  | .contextual => contextual
  | .afterInvertedName => inverted
  | .always => true
  | .never => false

end DelimiterRule

namespace NameOptions

/-- The name at a place, counted from zero, has its family part in front. -/
def inverts (o : NameOptions) (place : Nat) : Bool :=
  match o.inverted with
  | some .all => true
  | some .first => place = 0
  | none => false

end NameOptions

namespace NameFormat

/-! ## One name -/

/-- A part of a name that is there and not blank, without white space around it. -/
def trimmed? (s : Option String) : Option String := nonEmpty? (s.map trim)

/-- A text in the case and the formatting of a decoration. -/
def styled (locale : Locale) (d : Decoration) (s : String) : Token :=
  let cased := match d.textCase with
    | some textCase => textCase.apply (locale.language == "en") s
    | none => s
  .text .plain cased d.formatting

/-- Two parts with a space between them. -/
def spaced (a b : Buffer) : Buffer := a ++ Buffer.ofText .delimiter " " ++ b

/-- A particle in front of a family name, if there is one. -/
def withParticle (locale : Locale) (d : Decoration) (particle : Option String) (b : Buffer) :
    Buffer :=
  match trimmed? particle with
  | some s => spaced [styled locale d s] b
  | none => b

/-- A text behind a family name, such as Jr, if there is one. -/
def withEnding (ending : Option String) (b : Buffer) : Buffer :=
  match trimmed? ending with
  | some s => spaced b (Buffer.ofText .plain s)
  | none => b

/-- The family name with all that goes along with it. A short form has only the particle that
is never dropped. -/
def familyPart (f : NameFormat) (locale : Locale) (n : Name) : Buffer :=
  match nonEmpty? n.family with
  | none => []
  | some s =>
    let b := withParticle locale f.family n.nonDroppingParticle [styled locale f.family s]
    f.family.affixes.apply <|
      if f.form = .short then b
      else withEnding n.ending (withParticle locale f.given n.droppingParticle b)

/-- The given name, cut to initials if the options ask for it and a family name stands beside
it. No initials are no name. -/
def givenPart (f : NameFormat) (o : NameOptions) (locale : Locale) (besideFamily : Bool)
    (n : Name) : Buffer :=
  let s := n.given.getD ""
  let s := match o.initializeWith with
    | some mark => if besideFamily then Name.initials s mark (!o.initializes) else s
    | none => s
  f.given.affixes.apply (if s = "" then [] else [styled locale f.given s])

/-- One name. -/
def writeName (f : NameFormat) (o : NameOptions) (locale : Locale) (inverted : Bool)
    (n : Name) : Buffer :=
  match n.literal with
  | some s => Buffer.ofText .plain s
  | none =>
    let family := f.familyPart locale n
    if f.form = .short && !family.isEmpty then family
    else
      let given := f.givenPart o locale (!family.isEmpty) n
      if inverted then Buffer.joinFilled o.separator [family, given]
      else Buffer.joinFilled " " [given, family]

/-! ## Between names -/

/-- The text that joins the last name to the others. -/
def jointText (f : NameFormat) (o : NameOptions) (locale : Locale) : String :=
  match o.and with
  | some .text => " " ++ (locale.term? "and" .long false).getD "and" ++ " "
  | some .symbol => " & "
  | none => f.delimiter

/-- What stands in front of the last of several names. A delimiter there takes the place of
the space at the start of the joint. -/
def lastJoint (f : NameFormat) (o : NameOptions) (locale : Locale) (count : Nat) : Buffer :=
  let joint := f.jointText o locale
  if o.lastRule.applies (count > 2) (o.inverts (count - 2)) then
    Buffer.ofText .delimiter f.delimiter
      ++ if joint = f.delimiter then [] else Buffer.ofText .delimiter (trimStart joint)
  else Buffer.ofText .delimiter joint

/-- What stands for the names that are left out after some that are written. -/
def remainder (f : NameFormat) (o : NameOptions) (locale : Locale) (kept : Nat) : Buffer :=
  let others := (locale.term? "et-al" .long false).getD "et al."
  if o.etAlRule.applies (kept > 1) (o.inverts (kept - 1)) then
    Buffer.ofText .delimiter f.delimiter ++ Buffer.ofText .plain others
  else Buffer.ofText .plain (" " ++ others)

/-- Names one after the other, with a joint of its own in front of the last. -/
def joinNames (delimiter : String) (joint : Buffer) : List Buffer → Buffer
  | [] => []
  | [b] => b
  | [a, b] => a ++ joint ++ b
  | b :: rest => b ++ Buffer.ofText .delimiter delimiter ++ joinNames delimiter joint rest

/-! ## Lists of names -/

/-- The number of names that are written. -/
def count (f : NameFormat) (inherited : NameOptions) (names : List Name) : Nat :=
  (((inherited.merge f.options).limit? names.length).getD names.length).min names.length

/-- A list of names in the long or the short form. -/
def write (f : NameFormat) (inherited : NameOptions) (locale : Locale) (names : List Name) :
    Buffer :=
  let o := inherited.merge f.options
  let kept := f.count inherited names
  let written := names.zipIdx.map fun (n, place) => f.writeName o locale (o.inverts place) n
  f.decoration.apply locale <|
    if kept = 0 then []
    else if kept < names.length then
      Buffer.joinWith f.delimiter (written.take kept) ++ f.remainder o locale kept
    else joinNames f.delimiter (f.lastJoint o locale names.length) written

end NameFormat

end CiteStyle
