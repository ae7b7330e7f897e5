import ProxyWatch.Number.Rounding

/-! Finite binary64 numbers as exact values, with the arithmetic that rounds to them. -/
namespace ProxyWatch.Number

/-- The value `± significand · 2 ^ exponent`. Values made here are canonical: the significand has 53
bits unless the exponent is the least one. -/
structure Double where
  negative : Bool
  significand : Nat
  exponent : Int
  deriving DecidableEq, Repr, Inhabited

namespace Double

/-- The exponent of the subnormal numbers. -/
def leastExponent : Int := -1074

/-- The exponent of the largest finite numbers. -/
def greatestExponent : Int := 971

def zero (negative : Bool) : Double := ⟨negative, 0, leastExponent⟩

def isZero (x : Double) : Bool := x.significand == 0

/-- The magnitude as a fraction of natural numbers. -/
def magnitude (x : Double) : Nat × Nat :=
  if 0 ≤ x.exponent then (x.significand * Nat.pow 2 x.exponent.toNat, 1)
  else (x.significand, Nat.pow 2 (-x.exponent).toNat)

/-- `num / den < 2 ^ k`. -/
private def belowPower (num den : Nat) (k : Int) : Bool :=
  if 0 ≤ k then num < den * Nat.pow 2 k.toNat else num * Nat.pow 2 (-k).toNat < den

/-- The greatest `k` with `2 ^ k ≤ num / den`, for a positive fraction. -/
def binaryOrder (num den : Nat) : Int :=
  let guess : Int := (num.log2 : Int) - (den.log2 : Int)
  if belowPower num den guess then guess - 1 else guess

/-- The nearest number to `± num / den`, ties to even; none when it is past the finite range. -/
def ofRatio (negative : Bool) (num den : Nat) : Option Double :=
  if num = 0 then some (zero negative)
  else
    let exponent := max (binaryOrder num den - 52) leastExponent
    let rounded :=
      if 0 ≤ exponent then roundHalfEven num (den * Nat.pow 2 exponent.toNat)
      else roundHalfEven (num * Nat.pow 2 (-exponent).toNat) den
    let (significand, exponent) :=
      if rounded = Nat.pow 2 53 then (Nat.pow 2 52, exponent + 1) else (rounded, exponent)
    if greatestExponent < exponent then none else some ⟨negative, significand, exponent⟩

def ofNat? (n : Nat) : Option Double := ofRatio false n 1

def neg (x : Double) : Double := { x with negative := !x.negative }

/-- The product rounded to nearest, unless it overflows. -/
def mul? (x y : Double) : Option Double :=
  let (xn, xd) := x.magnitude
  let (yn, yd) := y.magnitude
  ofRatio (x.negative != y.negative) (xn * yn) (xd * yd)

/-- The quotient rounded to nearest, unless it overflows. The divisor is not zero. -/
def div? (x y : Double) : Option Double :=
  let (xn, xd) := x.magnitude
  let (yn, yd) := y.magnitude
  ofRatio (x.negative != y.negative) (xn * yd) (xd * yn)

/-- The sum of two numbers that are not negative, rounded to nearest. -/
def addMagnitudes? (x y : Double) : Option Double :=
  let (xn, xd) := x.magnitude
  let (yn, yd) := y.magnitude
  ofRatio false (xn * yd + yn * xd) (xd * yd)

/-- The integer part of the magnitude. -/
def truncated (x : Double) : Nat :=
  let (num, den) := x.magnitude
  num / den

/-- Equality of values: the two zeros are one value. -/
def same (x y : Double) : Bool := (x.isZero && y.isZero) || x == y

end Double
end ProxyWatch.Number
