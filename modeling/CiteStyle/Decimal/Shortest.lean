-- The shortest decimal that reads back as a given floating-point number, and
-- its layout without an exponent.
import CiteStyle.Decimal.Binary64
import CiteStyle.Text.Integer

namespace CiteStyle.Decimal

open Text

/-! ## Digits -/

/-- The number `digits * 10 ^ exponent`. -/
structure Scientific where
  digits : Nat
  exponent : Int
  deriving DecidableEq, Repr

/-- The interval of the numbers that round to a value: its ends over a common
denominator, and whether they belong to it. -/
structure Interval where
  low : Nat
  high : Nat
  den : Nat
  closed : Bool

/-- The numbers that round to `x`: halfway to the neighbour on each side. Below a power of
two the neighbour is nearer. -/
def Binary64.interval (x : Binary64) : Interval :=
  let narrow := x.significand = Nat.pow 2 52 && x.exponent != -1074
  let e := x.exponent - 2
  let scale : Nat := if e < 0 then 1 else Nat.pow 2 e.natAbs
  { low := (4 * x.significand - if narrow then 1 else 2) * scale
    high := (4 * x.significand + 2) * scale
    den := if e < 0 then Nat.pow 2 e.natAbs else 1
    closed := x.significand % 2 = 0 }

/-- Whether `digits * 10 ^ exponent` lies in the interval. -/
def Interval.holds (i : Interval) (s : Scientific) : Bool :=
  let (num, den) : Nat × Nat :=
    if s.exponent < 0 then (s.digits, Nat.pow 10 s.exponent.natAbs)
    else (s.digits * Nat.pow 10 s.exponent.natAbs, 1)
  let value := num * i.den
  let low := i.low * den
  let high := i.high * den
  if i.closed then low ≤ value && value ≤ high else low < value && value < high

/-- The decimal exponent of the first digit of a positive quotient. -/
def leadingExponent (num den : Nat) : Int :=
  let guess : Int := (((num.log2 : Int) - den.log2) * 30103) / 100000
  let reaches (k : Int) : Bool :=
    if k < 0 then den ≤ num * Nat.pow 10 k.natAbs else den * Nat.pow 10 k.natAbs ≤ num
  if reaches (guess + 1) then guess + 1
  else if reaches guess then guess
  else guess - 1

/-- Which of two decimals is taken that are equally near. -/
inductive Tie where
  /-- The one with an even last digit. -/
  | toEven
  /-- The larger one. -/
  | up
  deriving DecidableEq, Repr

/-- The larger of two neighbours on a grid is taken, where `n / d` is the value and the lower
neighbour is its whole part. -/
def Tie.takesUpper (tie : Tie) (n d : Nat) : Bool :=
  let twice := 2 * (n % d)
  d < twice || (twice = d && (tie = .up || n / d % 2 = 1))

/-- The decimal on the grid `10 ^ exponent` that reads back as `x` and is nearest to it. -/
def Binary64.onGrid? (tie : Tie) (x : Binary64) (exponent : Int) : Option Scientific :=
  let (num, den) := x.ratio
  let (n, d) : Nat × Nat :=
    if exponent < 0 then (num * Nat.pow 10 exponent.natAbs, den)
    else (num, den * Nat.pow 10 exponent.natAbs)
  let below : Scientific := ⟨n / d, exponent⟩
  let above : Scientific := ⟨n / d + 1, exponent⟩
  let nearest := if tie.takesUpper n d then above else below
  if x.interval.holds nearest then some nearest
  else if x.interval.holds below then some below
  else if x.interval.holds above then some above
  else none

/-- The shortest decimal that reads back as a positive value. -/
def Binary64.shortest (tie : Tie) (x : Binary64) : Scientific :=
  let (num, den) := x.ratio
  let leading := leadingExponent num den
  ((List.range 17).findSome? fun (k : Nat) => x.onGrid? tie (leading - k)).getD
    ⟨x.significand, 0⟩

/-- The digits without zeros at the end, and the exponent that goes with them. -/
def Scientific.strip (s : Scientific) : List Char × Int :=
  let digits := decimalDigits s.digits
  let kept := (digits.reverse.dropWhile (· == '0')).reverse
  (kept, s.exponent + (digits.length - kept.length : Nat))

/-! ## Layout -/

/-- Digits in front of a point that stands after the first `point` of them, and digits behind
it, both filled up with zeros. -/
def splitAtPoint (digits : List Char) (point : Int) : List Char × List Char :=
  if point ≤ 0 then (['0'], List.replicate point.natAbs '0' ++ digits)
  else (digits.take point.natAbs ++ List.replicate (point.natAbs - digits.length) '0',
    digits.drop point.natAbs)

/-- A value written without an exponent, however long that is. Of two shortest decimals that
are equally near the larger one is written. -/
def Binary64.positional (x : Binary64) : String :=
  let sign := if x.negative then ['-'] else []
  if x.isZero then String.ofList (sign ++ ['0'])
  else
    let (digits, exponent) := (x.shortest .up).strip
    let (whole, fraction) := splitAtPoint digits (digits.length + exponent)
    String.ofList (sign ++ whole ++ if fraction.isEmpty then [] else '.' :: fraction)

end CiteStyle.Decimal
