import ProxyWatch.Number.Double

/-! The shortest decimal that reads back as a given binary64 number. -/
namespace ProxyWatch.Number

/-- The value `digits · 10 ^ exponent`. -/
structure Decimal where
  digits : Nat
  exponent : Int
  deriving DecidableEq, Repr

namespace Decimal

/-- The value as a fraction of natural numbers. -/
def ratio (d : Decimal) : Nat × Nat :=
  if 0 ≤ d.exponent then (d.digits * Nat.pow 10 d.exponent.toNat, 1)
  else (d.digits, Nat.pow 10 (-d.exponent).toNat)

end Decimal

namespace Double

/-- The reals that round to a nonzero number: both ends over one denominator, and whether the ends
belong to it. Below a power of two the neighbours are half as far apart. -/
structure Interval where
  low : Nat
  value : Nat
  high : Nat
  den : Nat
  closed : Bool

def interval (x : Double) : Interval :=
  let m := x.significand
  let lowGap := if m = Nat.pow 2 52 ∧ leastExponent < x.exponent then 1 else 2
  let quarter : Int := x.exponent - 2
  let (scale, den) := if 0 ≤ quarter then (Nat.pow 2 quarter.toNat, 1)
    else (1, Nat.pow 2 (-quarter).toNat)
  { low := (4 * m - lowGap) * scale
    value := 4 * m * scale
    high := (4 * m + 2) * scale
    den
    closed := m % 2 == 0 }

namespace Interval

def contains (i : Interval) (d : Decimal) : Bool :=
  let (num, den) := d.ratio
  if i.closed then i.low * den ≤ num * i.den && num * i.den ≤ i.high * den
  else i.low * den < num * i.den && num * i.den < i.high * den

/-- The distance to the value, scaled by both denominators. -/
def distance (i : Interval) (d : Decimal) : Nat :=
  let (num, den) := d.ratio
  max (i.value * den) (num * i.den) - min (i.value * den) (num * i.den)

/-- The point just below or at the value on the grid of multiples of `10 ^ k`. -/
def gridFloor (i : Interval) (k : Int) : Nat :=
  if 0 ≤ k then i.value / (i.den * Nat.pow 10 k.toNat)
  else i.value * Nat.pow 10 (-k).toNat / i.den

/-- The grid point of the interval nearest to the value, ties to even digits. -/
def nearestOn? (i : Interval) (k : Int) : Option Decimal :=
  let floor : Decimal := ⟨i.gridFloor k, k⟩
  let ceil : Decimal := ⟨floor.digits + 1, k⟩
  match i.contains floor, i.contains ceil with
  | true, true =>
    let below := i.distance floor
    let above := i.distance ceil
    if below < above ∨ (below = above ∧ floor.digits % 2 = 0) then some floor else some ceil
  | true, false => some floor
  | false, true => some ceil
  | false, false => none

/-- The decimal exponent of the leading digit. -/
def leadingExponent (i : Interval) : Int :=
  if i.den ≤ i.value then (Nat.toDigits 10 (i.value / i.den)).length - 1
  else -(Nat.toDigits 10 ((i.den - 1) / i.value)).length

/-- The first grid with a point in the interval, from `width` digits on. -/
def shortestFrom (i : Interval) (leading : Int) (width : Nat) : Nat → Decimal
  | 0 => ⟨i.gridFloor (leading - width + 1), leading - width + 1⟩
  | more + 1 =>
    match i.nearestOn? (leading - width + 1) with
    | some found => found
    | none => i.shortestFrom leading (width + 1) more

end Interval

/-- The shortest decimal in the interval of a nonzero number, and of those the nearest. -/
def shortest (x : Double) : Decimal :=
  let i := x.interval
  i.shortestFrom i.leadingExponent 1 17

/-- Strip trailing zeros into the exponent. -/
def stripZeros : List Char → Int → List Char × Int
  | [], e => ([], e)
  | '0' :: reversed, e => stripZeros reversed (e + 1)
  | reversed, e => (reversed.reverse, e)

/-- Plain notation from `1e-5` up to below `1e16`, with `.0` kept for whole numbers; beyond that an
exponent that carries its sign. -/
def toText (x : Double) : String :=
  let sign := if x.negative then "-" else ""
  if x.isZero then sign ++ "0.0"
  else
    let d := x.shortest
    let (digits, exponent) := stripZeros (Nat.toDigits 10 d.digits).reverse d.exponent
    let count : Int := digits.length
    let point := count + exponent
    let body : List Char :=
      if 0 ≤ exponent ∧ point ≤ 16 then digits ++ List.replicate exponent.toNat '0' ++ ['.', '0']
      else if 0 < point ∧ point ≤ 16 then
        digits.take point.toNat ++ '.' :: digits.drop point.toNat
      else if -5 < point ∧ point ≤ 0 then
        '0' :: '.' :: List.replicate (-point).toNat '0' ++ digits
      else
        let lead := match digits with
          | [] => []
          | [d] => [d]
          | d :: rest => d :: '.' :: rest
        let power := point - 1
        lead ++ 'e' :: (if power < 0 then '-' else '+') :: Nat.toDigits 10 power.natAbs
    sign ++ String.ofList body

end Double
end ProxyWatch.Number
