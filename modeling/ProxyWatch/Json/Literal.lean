import ProxyWatch.Json.Basic

/-! Number texts: their grammar and their values.

A text without fraction and exponent is a whole number if it fits. Any other is a double, made from
the digits that fit into 64 bits and scaled by a power of ten; the scaling rounds once more. -/
namespace ProxyWatch.Json
open ProxyWatch.Number (Double)

/-- A number as it is written: the digits of its parts, most significant first. -/
structure Literal where
  negative : Bool
  whole : List Nat
  fraction : List Nat
  exponent : Option Int
  deriving Repr, DecidableEq

namespace Literal

def digit? (c : Char) : Option Nat := if c.isDigit then some (c.toNat - '0'.toNat) else none

/-- The digits that a text begins with, and what follows them. -/
def readDigits : List Char → List Nat × List Char
  | [] => ([], [])
  | c :: rest =>
    match digit? c with
    | none => ([], c :: rest)
    | some d => let (digits, after) := readDigits rest; (d :: digits, after)

def valueOf (digits : List Nat) : Nat := digits.foldl (fun n d => n * 10 + d) 0

def readFraction : List Char → Option (List Nat × List Char)
  | '.' :: rest =>
    match readDigits rest with
    | ([], _) => none
    | found => some found
  | rest => some ([], rest)

def readExponentDigits (negative : Bool) (text : List Char) : Option (Option Int × List Char) :=
  match readDigits text with
  | ([], _) => none
  | (digits, rest) =>
    let size : Int := valueOf digits
    some (some (if negative then -size else size), rest)

def readExponent : List Char → Option (Option Int × List Char)
  | c :: rest =>
    if c = 'e' ∨ c = 'E' then
      match rest with
      | '+' :: digits => readExponentDigits false digits
      | '-' :: digits => readExponentDigits true digits
      | digits => readExponentDigits false digits
    else some (none, c :: rest)
  | [] => some (none, [])

/-- Reads a number that starts at the first character. A leading zero stands alone. -/
def read (text : List Char) : Option (Literal × List Char) :=
  let (negative, text) := match text with
    | '-' :: rest => (true, rest)
    | rest => (false, rest)
  match readDigits text with
  | ([], _) => none
  | (0 :: _ :: _, _) => none
  | (whole, rest) => do
    let (fraction, rest) ← readFraction rest
    let (exponent, rest) ← readExponent rest
    pure (⟨negative, whole, fraction, exponent⟩, rest)

/-- Takes up digits while the number they write fits into 64 bits; counts the digits left out. -/
def takeUp (start : Nat) : List Nat → Nat × Nat
  | [] => (start, 0)
  | d :: rest =>
    if start * 10 + d ≤ counterLimit then takeUp (start * 10 + d) rest
    else (start, rest.length + 1)

def powerOfTen? (n : Nat) : Option Double := Double.ofNat? (Nat.pow 10 n)

/-- Divides by a power of ten, `1e308` at a time. -/
def scaleDown (x : Double) (n : Nat) : Option Double :=
  if n ≤ 308 then do x.div? (← powerOfTen? n)
  else if x.isZero then some x
  else do scaleDown (← x.div? (← powerOfTen? 308)) (n - 308)
termination_by n
decreasing_by omega

/-- `x · 10 ^ n`, unless that is past the finite range. -/
def scale (x : Double) (n : Int) : Option Double :=
  if 0 ≤ n then
    if n ≤ 308 then do x.mul? (← powerOfTen? n.toNat)
    else if x.isZero then some x else none
  else scaleDown x (-n).toNat

def double? (l : Literal) : Option Double := do
  let (start, droppedWhole) := takeUp 0 l.whole
  let (significand, droppedFraction) := takeUp start l.fraction
  let shift : Int := droppedWhole - (l.fraction.length - droppedFraction : Nat)
  let x ← Double.ofNat? significand
  let scaled ← scale x (shift + l.exponent.getD 0)
  pure { scaled with negative := l.negative }

/-- The value of a number text; none if it is past the range of doubles. -/
def value? (l : Literal) : Option Number :=
  let n := valueOf l.whole
  if l.fraction.isEmpty && l.exponent.isNone then
    if l.negative then
      if 0 < n ∧ n ≤ Nat.pow 2 63 then some (.integer (-(n : Int))) else l.double?.map .double
    else if n ≤ counterLimit then some (.integer n) else l.double?.map .double
  else l.double?.map .double

end Literal
end ProxyWatch.Json
