-- Whole numbers in text: an optional sign, then ASCII digits, within bounds.
namespace CiteStyle.Text

/-! ## Digits -/

/-- One of the ten ASCII digits. -/
def isDigit (c : Char) : Bool := '0' ≤ c && c ≤ '9'

/-- The value of a digit. -/
def digitValue (c : Char) : Nat := c.toNat - '0'.toNat

/-- The number that a run of digits denotes. -/
def digitsValue (cs : List Char) : Nat := cs.foldl (fun n c => 10 * n + digitValue c) 0

/-- A text of one digit or more, and of nothing else. -/
def isDigits (cs : List Char) : Bool := !cs.isEmpty && cs.all isDigit

/-- The number that a text of digits denotes. -/
def readDigits? (cs : List Char) : Option Nat :=
  if isDigits cs then some (digitsValue cs) else none

/-! ## Bounds -/

/-- The largest signed number of 32 bits. -/
def maxSigned32 : Nat := 2147483647

/-- The largest unsigned number of 32 bits. -/
def maxUnsigned32 : Nat := 4294967295

/-- The largest signed number of 64 bits. -/
def maxSigned64 : Nat := 9223372036854775807

/-- The largest unsigned number of 64 bits. -/
def maxUnsigned64 : Nat := 18446744073709551615

/-! ## Reading -/

/-- Read a number without sign, or with a plus sign, that is at most `limit`. -/
def readNat? (limit : Nat) (cs : List Char) : Option Nat :=
  let digits := match cs with
    | '+' :: rest => rest
    | _ => cs
  (readDigits? digits).filter (· ≤ limit)

/-- Read a number with an optional sign from `-(limit + 1)` to `limit`. -/
def readInt? (limit : Nat) (cs : List Char) : Option Int :=
  match cs with
  | '-' :: rest => ((readDigits? rest).filter (· ≤ limit + 1)).map fun n => -(n : Int)
  | _ => (readNat? limit cs).map Int.ofNat

/-! ## Writing -/

/-- The decimal digits of a number. -/
def decimalDigits (n : Nat) : List Char := Nat.toDigits 10 n

/-- The decimal digits of a number, with zeros in front up to a width. -/
def paddedDigits (width n : Nat) : List Char :=
  let digits := decimalDigits n
  List.replicate (width - digits.length) '0' ++ digits

/-- A number in decimal, with a minus sign if it is negative. -/
def decimalInt (n : Int) : List Char :=
  if n < 0 then '-' :: decimalDigits n.natAbs else decimalDigits n.natAbs

end CiteStyle.Text
