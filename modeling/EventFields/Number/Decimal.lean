/-!
# Decimals of floating point numbers

A finite double is a multiple `mantissa · 2 ^ exponent`. The reals that round
to it form an interval; the shortest decimals inside this interval read back as
the same double, and of those the one nearest to the double is taken.
-/

namespace EventFields

/-- The number `digits · 10 ^ exponent`, or its negative. -/
structure Decimal where
  negative : Bool
  digits : Nat
  exponent : Int
  deriving Repr, DecidableEq

namespace Decimal

/-- A positive fraction. -/
structure Fraction where
  numerator : Nat
  denominator : Nat

/-- The fraction `number · base ^ exponent`. -/
def Fraction.scaled (number base : Nat) (exponent : Int) : Fraction :=
  if exponent < 0 then ⟨number, base.pow exponent.natAbs⟩
  else ⟨number * base.pow exponent.natAbs, 1⟩

/-- Whether one fraction is less than another. -/
def Fraction.less (left right : Fraction) : Bool :=
  left.numerator * right.denominator < right.numerator * left.denominator

/-- The reals that round to a double, ends included if `closed`. -/
structure Rounding where
  lower : Fraction
  value : Fraction
  upper : Fraction
  closed : Bool

namespace Rounding

/-- The interval of `mantissa · 2 ^ exponent`. Below a power of two the doubles
lie closer together, so the lower half gap is smaller there. -/
def ofDouble (mantissa : Nat) (exponent : Int) (powerOfTwo : Bool) : Rounding where
  lower := .scaled (4 * mantissa - if powerOfTwo then 1 else 2) 2 (exponent - 2)
  value := .scaled mantissa 2 exponent
  upper := .scaled (4 * mantissa + 2) 2 (exponent - 2)
  closed := mantissa % 2 = 0

/-- Whether a positive fraction lies in the interval. -/
def contains (rounding : Rounding) (point : Fraction) : Bool :=
  if rounding.closed then
    !point.less rounding.lower && !rounding.upper.less point
  else
    rounding.lower.less point && point.less rounding.upper

/-- The multiple of `10 ^ exponent` in the interval that is nearest to the
value; of two equally near ones, the even multiple. -/
def onGrid? (rounding : Rounding) (exponent : Int) : Option Nat :=
  let unit := Fraction.scaled 1 10 exponent
  let numerator := rounding.value.numerator * unit.denominator
  let denominator := rounding.value.denominator * unit.numerator
  let below := numerator / denominator
  let remainder := numerator % denominator
  let point := fun multiple => Fraction.scaled multiple 10 exponent
  let belowFits := below != 0 && rounding.contains (point below)
  let aboveFits := rounding.contains (point (below + 1))
  let belowIsNearer :=
    2 * remainder < denominator || (2 * remainder = denominator && below % 2 = 0)
  if belowFits && (belowIsNearer || !aboveFits) then some below
  else if aboveFits then some (below + 1)
  else none

/-- The first hit on grids that become finer by powers of ten. -/
def search (rounding : Rounding) : (grids : Nat) → (exponent : Int) → Nat × Int
  | 0, exponent => (0, exponent)
  | grids + 1, exponent =>
      match rounding.onGrid? exponent with
      | some multiple => (multiple, exponent)
      | none => rounding.search grids (exponent - 1)

end Rounding

/-- The exponent of ten of the coarsest grid that is looked at: the least one
above the value. -/
def coarsest (value : Fraction) : Int :=
  if value.denominator ≤ value.numerator then
    (Nat.toDigits 10 (value.numerator / value.denominator)).length
  else
    1 - (Nat.toDigits 10 (value.denominator / value.numerator)).length

/-- The shortest decimal that reads back as the finite double with given bits. -/
def shortest (bits : UInt64) : Decimal :=
  let negative := bits >>> 63 != 0
  let biased := ((bits >>> 52) &&& 0x7ff).toNat
  let fraction := (bits &&& 0xfffffffffffff).toNat
  if biased = 0 && fraction = 0 then
    ⟨negative, 0, 0⟩
  else
    let mantissa := if biased = 0 then fraction else Nat.pow 2 52 + fraction
    let exponent : Int := (max biased 1 : Nat) - 1075
    let rounding := Rounding.ofDouble mantissa exponent (fraction = 0 && 1 < biased)
    let (digits, power) := rounding.search 40 (coarsest rounding.value)
    ⟨negative, digits, power⟩

/-- A digit string, without its zeros at the end, and the power of ten of its
first digit's place plus one. -/
def significant (decimal : Decimal) : List Char × Int :=
  let digits := Nat.toDigits 10 decimal.digits
  let kept := (digits.reverse.dropWhile (· = '0')).reverse
  (if kept.isEmpty then ['0'] else kept, digits.length + decimal.exponent)

/-- The sign of a number. -/
def sign (decimal : Decimal) : String :=
  if decimal.negative then "-" else ""

/-- A number written out in full, with at least one digit after the point. -/
def positional (decimal : Decimal) : String :=
  let (digits, point) := decimal.significant
  let body :=
    if point ≤ 0 then
      "0." ++ String.ofList (List.replicate point.natAbs '0' ++ digits)
    else
      let whole := point.toNat
      let padded := digits ++ List.replicate (whole - digits.length) '0'
      let decimals := digits.drop whole
      String.ofList (padded.take whole) ++ "." ++
        (if decimals.isEmpty then "0" else String.ofList decimals)
  if decimal.digits = 0 then decimal.sign ++ "0.0" else decimal.sign ++ body

/-- A number in exponent form, the point after the first digit and the exponent
with its sign. -/
def scientific (decimal : Decimal) : String :=
  let (digits, point) := decimal.significant
  let decimals := digits.drop 1
  decimal.sign ++ String.ofList (digits.take 1) ++
    (if decimals.isEmpty then "" else "." ++ String.ofList decimals) ++
    (if point < 1 then "e" else "e+") ++ toString (point - 1)

/-- A number written out in full if its point lies near its digits, from five
places before the first digit to sixteen after it; in exponent form otherwise. -/
def text (decimal : Decimal) : String :=
  let point := decimal.significant.2
  if decimal.digits = 0 || (-5 < point && point ≤ 16) then decimal.positional
  else decimal.scientific

end Decimal

end EventFields
