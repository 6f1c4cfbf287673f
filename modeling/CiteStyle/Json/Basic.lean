-- JSON values. Objects keep the order of their fields, and repeated names;
-- numbers keep their spelling until someone asks for their value.
import CiteStyle.Decimal.Shortest
import CiteStyle.Entries

namespace CiteStyle

open Decimal

/-! ## Numbers -/

/-- The exponent of a number as it is written. -/
structure Exponent where
  /-- The letter in front, e or E. -/
  letter : Char
  sign : Option Char
  digits : List Char
  deriving DecidableEq, Repr

/-- The value of an exponent. -/
def Exponent.value (e : Exponent) : Int :=
  let n : Int := Text.digitsValue e.digits
  if e.sign = some '-' then -n else n

/-- A number as it is written. -/
structure Numeral where
  negative : Bool
  whole : List Char
  /-- The digits after the point, if there is one. -/
  fraction : Option (List Char) := none
  exponent : Option Exponent := none
  deriving DecidableEq, Repr

/-- The value of a number: a whole number of 64 bits, or a floating-point number. -/
inductive Number where
  | whole (n : Int)
  | real (x : Binary64)
  deriving DecidableEq, Repr

namespace Numeral

/-- The spelling of a number. -/
def written (n : Numeral) : String :=
  let fraction := match n.fraction with
    | some digits => '.' :: digits
    | none => []
  let exponent := match n.exponent with
    | some e => e.letter :: e.sign.toList ++ e.digits
    | none => []
  String.ofList ((if n.negative then ['-'] else []) ++ n.whole ++ fraction ++ exponent)

/-- The spelling of a whole number. -/
def ofInt (n : Int) : Numeral := { negative := n < 0, whole := Text.decimalDigits n.natAbs }

/-- The spelling of a floating-point number: the shortest decimal that reads back, laid out so
that it shows as no whole number. It has a point, or an exponent with a sign if the point would
stand far from the digits. -/
def ofReal (x : Binary64) : Numeral :=
  if x.isZero then { negative := x.negative, whole := ['0'], fraction := some ['0'] }
  else
    let (digits, exponent) := (x.shortest .toEven).strip
    let point : Int := digits.length + exponent
    if -5 < point && point ≤ 16 then
      let (whole, fraction) := splitAtPoint digits point
      { negative := x.negative, whole
        fraction := some (if fraction.isEmpty then ['0'] else fraction) }
    else
      let sign := if point - 1 < 0 then '-' else '+'
      { negative := x.negative
        whole := digits.take 1
        fraction := if digits.length ≤ 1 then none else some (digits.drop 1)
        exponent := some ⟨'e', some sign, Text.decimalDigits (point - 1).natAbs⟩ }

/-- Take digits into a number for as long as it fits 64 bits; what is left over comes
second. -/
def takeDigits (n : Nat) : List Char → Nat × List Char
  | [] => (n, [])
  | c :: rest =>
    let next := 10 * n + Text.digitValue c
    if next ≤ Text.maxUnsigned64 then takeDigits next rest else (n, c :: rest)

/-- The value of a number, or nothing if it is too large. A number with a fraction or an
exponent, a whole number beyond 64 bits, and `-0` are floating-point numbers. -/
def value? (n : Numeral) : Option Number :=
  let (digits, dropped) := takeDigits 0 n.whole
  let fraction := n.fraction.getD []
  let (digits', unused) := takeDigits digits fraction
  let scale : Int := dropped.length - (fraction.length - unused.length : Nat)
  if n.fraction.isNone && n.exponent.isNone && dropped.isEmpty then
    if !n.negative then some (.whole digits)
    else if 0 < digits && digits ≤ Text.maxSigned64 + 1 then some (.whole (-(digits : Int)))
    else (Binary64.ofDigits? true digits 0).map .real
  else
    let exponent := (n.exponent.map Exponent.value).getD 0
    (Binary64.ofDigits? n.negative digits' (scale + exponent)).map .real

end Numeral

namespace Number

/-- The spelling of a number in which a floating-point number never looks whole. -/
def numeral : Number → Numeral
  | .whole n => .ofInt n
  | .real x => .ofReal x

/-- The text of that spelling. -/
def text (n : Number) : String := n.numeral.written

/-- The text of a number without an exponent, and without a point where it can be. -/
def plainText : Number → String
  | .whole n => String.ofList (Text.decimalInt n)
  | .real x => x.positional

end Number

/-! ## Values -/

/-- A JSON value. -/
inductive Json where
  | null
  | bool (value : Bool)
  | number (value : Numeral)
  | text (value : String)
  | array (items : List Json)
  | object (fields : List (String × Json))
  /-- A string that holds half of a surrogate pair, or an object with such a name. It may stand
  where nobody reads it. -/
  | unreadable
  deriving Repr, Inhabited

namespace Json

/-- The last value under a name, if the value is an object that has it. -/
def get? (name : String) : Json → Option Json
  | .object fields => (lastWins fields).lookup name
  | _ => none

mutual
/-- The number of arrays and objects around the innermost value. -/
def depth : Json → Nat
  | .array items => depthItems items + 1
  | .object fields => depthFields fields + 1
  | _ => 0

/-- The greatest depth in a list of values. -/
def depthItems : List Json → Nat
  | [] => 0
  | item :: rest => max item.depth (depthItems rest)

/-- The greatest depth in a list of fields. -/
def depthFields : List (String × Json) → Nat
  | [] => 0
  | (_, value) :: rest => max value.depth (depthFields rest)
end

mutual
/-- Everything in a value can be read: every number fits a floating-point number, and all
strings are whole. -/
def hasValues : Json → Bool
  | .number n => n.value?.isSome
  | .unreadable => false
  | .array items => haveValues items
  | .object fields => fieldsHaveValues fields
  | _ => true

/-- Everything in a list of values can be read. -/
def haveValues : List Json → Bool
  | [] => true
  | item :: rest => item.hasValues && haveValues rest

/-- Everything in a list of fields can be read. -/
def fieldsHaveValues : List (String × Json) → Bool
  | [] => true
  | (_, value) :: rest => value.hasValues && fieldsHaveValues rest
end

end Json

end CiteStyle
