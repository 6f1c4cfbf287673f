-- Finite floating-point numbers of 64 bits, in exact arithmetic: a value is
-- a whole number times a power of two, and an operation is the exact result
-- rounded to the nearest value, a tie going to the even neighbour.
namespace CiteStyle.Decimal

/-- The number `significand * 2 ^ exponent` with a sign. The significand has at most
53 bits, and the exponent is at least -1074. -/
structure Binary64 where
  negative : Bool
  significand : Nat
  exponent : Int
  deriving DecidableEq, Repr, Inhabited

namespace Binary64

/-! ## Rounding -/

/-- The quotient rounded to the nearest whole number, a tie to the even one. -/
def roundDiv (num den : Nat) : Nat :=
  let quotient := num / den
  let twice := 2 * (num % den)
  if den < twice || (twice = den && quotient % 2 = 1) then quotient + 1 else quotient

/-- The quotient `num / (den * 2 ^ e)` as a pair of naturals. -/
def scaleDown (num den : Nat) (e : Int) : Nat × Nat :=
  if e < 0 then (num * Nat.pow 2 e.natAbs, den) else (num, den * Nat.pow 2 e.natAbs)

/-- The exponent at which the quotient has a significand of 53 bits, or -1074 if that is
larger. -/
def exponentFor (num den : Nat) : Int :=
  let guess : Int := (num.log2 : Int) - den.log2 - 52
  let (n, d) := scaleDown num den guess
  max (if n < d * Nat.pow 2 52 then guess - 1 else guess) (-1074)

/-- The value nearest to a quotient, or nothing if it is too large. -/
def ofRatio? (negative : Bool) (num den : Nat) : Option Binary64 :=
  if num = 0 then some ⟨negative, 0, -1074⟩
  else
    let e := exponentFor num den
    let (n, d) := scaleDown num den e
    let m := roundDiv n d
    let (m, e) := if m = Nat.pow 2 53 then (Nat.pow 2 52, e + 1) else (m, e)
    if e > 971 then none else some ⟨negative, m, e⟩

/-- The value as a quotient of naturals, without its sign. -/
def ratio (x : Binary64) : Nat × Nat :=
  if x.exponent < 0 then (x.significand, Nat.pow 2 x.exponent.natAbs)
  else (x.significand * Nat.pow 2 x.exponent.natAbs, 1)

/-- The value is zero, of either sign. -/
def isZero (x : Binary64) : Bool := x.significand = 0

/-! ## Operations -/

/-- The product, or nothing if it is too large. -/
def mul? (x y : Binary64) : Option Binary64 :=
  let (a, b) := x.ratio
  let (c, d) := y.ratio
  ofRatio? (x.negative != y.negative) (a * c) (b * d)

/-- The quotient by a value that is not zero, or nothing if it is too large. -/
def div? (x y : Binary64) : Option Binary64 :=
  let (a, b) := x.ratio
  let (c, d) := y.ratio
  ofRatio? (x.negative != y.negative) (a * d) (b * c)

/-- The power of ten nearest to `10 ^ k`, or nothing if it is too large. -/
def powerOfTen? (k : Nat) : Option Binary64 := ofRatio? false (Nat.pow 10 k) 1

/-- The whole part of the value, toward zero. -/
def truncate (x : Binary64) : Int :=
  let (num, den) := x.ratio
  if x.negative then -((num / den : Nat) : Int) else ((num / den : Nat) : Int)

/-! ## Scaling by a power of ten -/

/-- The largest power of ten that is used in one step. -/
def maxPower : Nat := 308

/-- Divide by the same value a number of times, or until nothing is left. -/
def divRepeatedly? (x y : Binary64) : Nat → Option Binary64
  | 0 => some x
  | times + 1 =>
    if x.isZero then some x
    else match x.div? y with
      | none => none
      | some z => divRepeatedly? z y times

/-- Divide by `10 ^ k`, in steps if `k` is large. -/
def divByPower? (x : Binary64) (k : Nat) : Option Binary64 := do
  let steps := (k - 1) / maxPower
  let y ← x.divRepeatedly? (← powerOfTen? maxPower) steps
  y.div? (← powerOfTen? (k - steps * maxPower))

/-- The value of `digits * 10 ^ exponent`: the digits are rounded first, and then scaled
by the rounded power of ten. Nothing if the result is too large. -/
def ofDigits? (negative : Bool) (digits : Nat) (exponent : Int) : Option Binary64 := do
  let x ← ofRatio? negative digits 1
  if exponent < 0 then x.divByPower? exponent.natAbs
  else if exponent.natAbs ≤ maxPower then x.mul? (← powerOfTen? exponent.natAbs)
  else if x.isZero then some x
  else none

end Binary64

end CiteStyle.Decimal
