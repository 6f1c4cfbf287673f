-- Reading JSON text. The grammar is the strict one: no comments, no trailing
-- commas and no bare control characters. A surrogate without its other half is
-- grammatical, but the string that it stands in cannot be read.
import CiteStyle.Json.Basic
import CiteStyle.Text.Integer

namespace CiteStyle.Json

open Text

/-! ## Blanks and words -/

/-- The white space of JSON text. -/
def isGap (c : Char) : Bool := c == ' ' || c == '\t' || c == '\n' || c == '\r'

/-- What follows a word, if the text starts with it. -/
def afterWord? : List Char → List Char → Option (List Char)
  | [], cs => some cs
  | w :: word, c :: cs => if w = c then afterWord? word cs else none
  | _ :: _, [] => none

/-! ## Strings -/

/-- The value of a hexadecimal digit. -/
def hexValue? (c : Char) : Option Nat :=
  if isDigit c then some (c.toNat - '0'.toNat)
  else if 'a' ≤ c ∧ c ≤ 'f' then some (c.toNat - 'a'.toNat + 10)
  else if 'A' ≤ c ∧ c ≤ 'F' then some (c.toNat - 'A'.toNat + 10)
  else none

/-- The number that four hexadecimal digits denote. -/
def unit? (a b c d : Char) : Option Nat := do
  let a ← hexValue? a
  let b ← hexValue? b
  let c ← hexValue? c
  let d ← hexValue? d
  return ((a * 16 + b) * 16 + c) * 16 + d

/-- The character of an escape with one letter. -/
def shortEscape? : Char → Option Char
  | '"' => some '"'
  | '\\' => some '\\'
  | '/' => some '/'
  | 'b' => some '\x08'
  | 'f' => some '\x0c'
  | 'n' => some '\n'
  | 'r' => some '\r'
  | 't' => some '\t'
  | _ => none

/-- A piece of a string: a character, or half of a surrogate pair. -/
inductive StringPiece where
  | char (c : Char)
  | half (unit : Nat)
  deriving DecidableEq, Repr

/-- The piece that a unit of sixteen bits is. -/
def StringPiece.ofUnit (n : Nat) : StringPiece :=
  if 0xD800 ≤ n ∧ n ≤ 0xDFFF then .half n else .char (Char.ofNat n)

/-- The pieces of a string, read from behind its opening quote, and what follows its closing
quote. -/
def stringPieces? : List Char → Option (List StringPiece × List Char)
  | [] => none
  | '"' :: rest => some ([], rest)
  | '\\' :: 'u' :: a :: b :: c :: d :: rest =>
    match unit? a b c d, stringPieces? rest with
    | some n, some (pieces, after) => some (.ofUnit n :: pieces, after)
    | _, _ => none
  | '\\' :: e :: rest =>
    match shortEscape? e, stringPieces? rest with
    | some c, some (pieces, after) => some (.char c :: pieces, after)
    | _, _ => none
  | c :: rest =>
    if c.toNat < 32 then none
    else (stringPieces? rest).map fun (pieces, after) => (.char c :: pieces, after)

/-- The text of some pieces, if every half has its other half next to it. -/
def joinPieces? : List StringPiece → Option (List Char)
  | [] => some []
  | .char c :: rest => (joinPieces? rest).map (c :: ·)
  | .half n :: .half m :: rest =>
    if n ≤ 0xDBFF ∧ 0xDC00 ≤ m then
      (joinPieces? rest).map (Char.ofNat (0x10000 + (n - 0xD800) * 0x400 + (m - 0xDC00)) :: ·)
    else none
  | .half _ :: _ => none

/-- The string behind an opening quote, if it can be read, and what follows its closing
quote. -/
def string? (cs : List Char) : Option (Option String × List Char) :=
  (stringPieces? cs).map fun (pieces, after) =>
    ((joinPieces? pieces).map String.ofList, after)

/-! ## Numbers -/

/-- The exponent at the start of a text, if there is one; nothing if it is malformed. -/
def exponent? (cs : List Char) : Option (Option Exponent × List Char) :=
  match cs with
  | c :: rest =>
    if c = 'e' ∨ c = 'E' then
      let (sign, rest) := match rest with
        | '-' :: rest => (some '-', rest)
        | '+' :: rest => (some '+', rest)
        | _ => (none, rest)
      let digits := rest.takeWhile isDigit
      if digits.isEmpty then none else some (some ⟨c, sign, digits⟩, rest.dropWhile isDigit)
    else some (none, cs)
  | [] => some (none, [])

/-- The digits after a point, if there is one; nothing if there is a point alone. -/
def fraction? (cs : List Char) : Option (Option (List Char) × List Char) :=
  match cs with
  | '.' :: rest =>
    let digits := rest.takeWhile isDigit
    if digits.isEmpty then none else some (some digits, rest.dropWhile isDigit)
  | _ => some (none, cs)

/-- The number at the start of a text, and what follows it. -/
def numeral? (cs : List Char) : Option (Numeral × List Char) := do
  let (negative, cs) := match cs with
    | '-' :: rest => (true, rest)
    | _ => (false, cs)
  let whole := cs.takeWhile isDigit
  guard (!whole.isEmpty && (whole.length = 1 || whole.head? != some '0'))
  let (fraction, cs) ← fraction? (cs.dropWhile isDigit)
  let (exponent, cs) ← exponent? cs
  return (⟨negative, whole, fraction, exponent⟩, cs)

/-! ## Values -/

/-- The object of some fields. One with a name that cannot be read is itself unreadable. -/
def ofFields (fields : List (Option String × Json)) : Json :=
  match fields.mapM fun (name, value) => name.map (·, value) with
  | some fields => .object fields
  | none => .unreadable

mutual
/-- The value at the start of a text, and what follows it. Each level of nesting and each
further item takes one unit of `fuel`. -/
def value? (fuel : Nat) (cs : List Char) : Option (Json × List Char) :=
  match fuel with
  | 0 => none
  | fuel + 1 =>
    match cs.dropWhile isGap with
    | '"' :: rest =>
      (string? rest).map fun (s, after) => ((s.map Json.text).getD .unreadable, after)
    | '[' :: rest =>
      match rest.dropWhile isGap with
      | ']' :: after => some (.array [], after)
      | first => (items? fuel first).map fun (items, after) => (.array items, after)
    | '\x7b' :: rest =>
      match rest.dropWhile isGap with
      | '\x7d' :: after => some (.object [], after)
      | first => (fields? fuel first).map fun (fields, after) => (ofFields fields, after)
    | 'n' :: rest => (afterWord? "ull".toList rest).map (.null, ·)
    | 't' :: rest => (afterWord? "rue".toList rest).map (.bool true, ·)
    | 'f' :: rest => (afterWord? "alse".toList rest).map (.bool false, ·)
    | other => (numeral? other).map fun (n, after) => (.number n, after)

/-- The items of an array up to its closing bracket, and what follows. -/
def items? (fuel : Nat) (cs : List Char) : Option (List Json × List Char) :=
  match fuel with
  | 0 => none
  | fuel + 1 =>
    match value? fuel cs with
    | none => none
    | some (item, rest) =>
      match rest.dropWhile isGap with
      | ']' :: after => some ([item], after)
      | ',' :: next => (items? fuel next).map fun (items, after) => (item :: items, after)
      | _ => none

/-- The fields of an object up to its closing brace, and what follows. -/
def fields? (fuel : Nat) (cs : List Char) :
    Option (List (Option String × Json) × List Char) :=
  match fuel with
  | 0 => none
  | fuel + 1 =>
    match cs.dropWhile isGap with
    | '"' :: rest =>
      match string? rest with
      | none => none
      | some (name, rest) =>
        match rest.dropWhile isGap with
        | ':' :: rest =>
          match value? fuel rest with
          | none => none
          | some (value, rest) =>
            match rest.dropWhile isGap with
            | '\x7d' :: after => some ([(name, value)], after)
            | ',' :: next =>
              (fields? fuel next).map fun (fields, after) => ((name, value) :: fields, after)
            | _ => none
        | _ => none
    | _ => none
end

/-- The value that a text writes, if it is JSON text. -/
def read? (text : String) : Option Json :=
  match value? (2 * text.length + 2) text.toList with
  | none => none
  | some (value, rest) => if rest.all isGap then some value else none

end CiteStyle.Json
