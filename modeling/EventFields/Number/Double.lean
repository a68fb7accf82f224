/-!
# Doubles from decimal text

A decimal is converted by scaling its first digits, as many as fit into 64
bits, by a power of ten in one or more floating point operations. The result
can differ from the nearest double in its last bits.
-/

namespace EventFields.Double

/-- The largest power of ten among doubles. -/
def maxPower : Nat := 308

/-- The power of ten with a given exponent. -/
def powerOfTen (exponent : Nat) : Float :=
  Float.ofScientific 1 false exponent

/-- Scales a number by a power of ten. There is no result if it gets infinite. -/
def scale? : (steps : Nat) → (number : Float) → (exponent : Int) → Option Float
  | 0, number, _ => some number
  | steps + 1, number, exponent =>
      if exponent.natAbs ≤ maxPower then
        if 0 ≤ exponent then
          let scaled := number * powerOfTen exponent.natAbs
          if scaled.isInf then none else some scaled
        else
          some (number / powerOfTen exponent.natAbs)
      else if number == 0 then
        some number
      else if 0 ≤ exponent then
        none
      else
        scale? steps (number / powerOfTen maxPower) (exponent + maxPower)

/-- The bits of the double for `significand · 10 ^ exponent`, or its negative. -/
def bits? (negative : Bool) (significand : UInt64) (exponent : Int) : Option UInt64 :=
  (scale? 4 significand.toFloat exponent).map fun magnitude =>
    (if negative then -magnitude else magnitude).toBits

end EventFields.Double
