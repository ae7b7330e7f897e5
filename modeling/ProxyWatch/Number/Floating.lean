import ProxyWatch.Number.Shortest

/-! Floating point numbers with infinities, as settings hold them: reading, writing and rounding. -/
namespace ProxyWatch.Number

inductive Floating where
  | finite (value : Double)
  | infinite (negative : Bool)
  | undefined
  deriving DecidableEq, Repr

namespace Floating

/-- Beyond these decimal orders every number is infinite or zero. -/
def greatestOrder : Int := 310

def leastOrder : Int := -330

/-- The number nearest to `± digits · 10 ^ exponent`; infinite past the finite range. -/
def ofDecimal (negative : Bool) (digits : Nat) (exponent : Int) : Floating :=
  let order : Int := (Nat.toDigits 10 digits).length + exponent
  if digits = 0 ∨ order < leastOrder then finite (.zero negative)
  else if greatestOrder < order then infinite negative
  else
    let (num, den) := Decimal.ratio ⟨digits, exponent⟩
    match Double.ofRatio negative num den with
    | some value => finite value
    | none => infinite negative

def digitsValue (digits : List Char) : Nat :=
  digits.foldl (fun n c => n * 10 + (c.toNat - '0'.toNat)) 0

/-- A sign that a text may begin with, and the rest. -/
def splitSign : List Char → Bool × List Char
  | '-' :: rest => (true, rest)
  | '+' :: rest => (false, rest)
  | text => (false, text)

def exponent? (text : List Char) : Option Int :=
  match text with
  | [] => some 0
  | mark :: rest =>
    let (negative, digits) := splitSign rest
    if (mark = 'e' ∨ mark = 'E') ∧ !digits.isEmpty ∧ digits.all Char.isDigit then
      let size : Int := digitsValue digits
      some (if negative then -size else size)
    else none

/-- Digits on at least one side of the point, and an exponent if there is one. -/
def decimal? (negative : Bool) (text : List Char) : Option Floating :=
  let whole := text.takeWhile Char.isDigit
  let rest := text.dropWhile Char.isDigit
  let (fraction, rest) := match rest with
    | '.' :: after => (after.takeWhile Char.isDigit, after.dropWhile Char.isDigit)
    | rest => ([], rest)
  if whole.isEmpty && fraction.isEmpty then none
  else (exponent? rest).map fun exponent =>
    ofDecimal negative (digitsValue (whole ++ fraction)) (exponent - fraction.length)

/-- Reads a whole text; the names of what is no finite number are read in any case. -/
def parse? (text : String) : Option Floating :=
  let (negative, body) := splitSign text.toList
  match String.ofList (body.map Char.toLower) with
  | "inf" | "infinity" => some (infinite negative)
  | "nan" => some undefined
  | _ => decimal? negative body

/-- The shortest digits that read back, never with an exponent, and without a fraction for whole
numbers. -/
def toText : Floating → String
  | undefined => "NaN"
  | infinite negative => if negative then "-inf" else "inf"
  | finite value =>
    let sign := if value.negative then "-" else ""
    if value.isZero then sign ++ "0"
    else
      let shortest := value.shortest
      let (digits, exponent) := Double.stripZeros (Nat.toDigits 10 shortest.digits).reverse shortest.exponent
      let point : Int := digits.length + exponent
      let body : List Char :=
        if 0 ≤ exponent then digits ++ List.replicate exponent.toNat '0'
        else if 0 < point then digits.take point.toNat ++ '.' :: digits.drop point.toNat
        else '0' :: '.' :: List.replicate (-point).toNat '0' ++ digits
      sign ++ String.ofList body

/-- The nearest whole number, a half going away from zero, held within `0` and a limit. -/
def rounded (limit : Nat) : Floating → Nat
  | undefined => 0
  | infinite negative => if negative then 0 else limit
  | finite value =>
    if value.negative then 0
    else
      let (num, den) := value.magnitude
      min limit ((2 * num + den) / (2 * den))

end Floating
end ProxyWatch.Number
