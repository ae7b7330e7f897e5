/-! Exact rounding of quotients, and decimals with a fixed number of places. -/
namespace ProxyWatch.Number

/-- The integer nearest to `num / den`; a tie goes to the even neighbour. -/
def roundHalfEven (num den : Nat) : Nat :=
  let quotient := num / den
  let twice := 2 * (num % den)
  if twice < den then quotient
  else if den < twice then quotient + 1
  else if quotient % 2 = 0 then quotient else quotient + 1

/-- The integer nearest to `num / den`; a tie goes up. -/
def roundHalfUp (num den : Nat) : Nat := (2 * num + den) / (2 * den)

/-- The digits of a number, padded with leading zeros to a width. -/
def paddedDigits (width n : Nat) : List Char :=
  let digits := Nat.toDigits 10 n
  List.replicate (width - digits.length) '0' ++ digits

/-- `num / den` with exactly two decimals. -/
def hundredths (num den : Nat) : String :=
  let scaled := roundHalfEven (num * 100) den
  String.ofList (Nat.toDigits 10 (scaled / 100) ++ '.' :: paddedDigits 2 (scaled % 100))

end ProxyWatch.Number
