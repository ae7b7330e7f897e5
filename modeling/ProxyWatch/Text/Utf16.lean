/-! UTF-16: bytes as units, and units as texts. -/
namespace ProxyWatch.Utf16

/-- Which byte of a unit comes first. -/
inductive Order where
  | lowFirst
  | highFirst
  deriving DecidableEq, Repr

def Order.unit (first second : UInt8) : Order → Nat
  | lowFirst => second.toNat * 0x100 + first.toNat
  | highFirst => first.toNat * 0x100 + second.toNat

/-- The units of pairs of bytes, and whether a byte is left over. -/
def units (order : Order) : List UInt8 → List Nat × Bool
  | [] => ([], false)
  | [_] => ([], true)
  | first :: second :: rest =>
    let (later, leftOver) := units order rest
    (order.unit first second :: later, leftOver)

/-- The characters of units, after a first half that waits for its second. A half without its other
half is a gap, and so is an end within a character. -/
def decodeFrom (half : Option Nat) (leftOver : Bool) : List Nat → List (Option Char)
  | [] => if half.isSome || leftOver then [none] else []
  | unit :: rest =>
    if 0xDC00 ≤ unit ∧ unit < 0xE000 then
      let char := half.map fun high => Char.ofNat (0x10000 + (high - 0xD800) * 0x400 + (unit - 0xDC00))
      char :: decodeFrom none leftOver rest
    else
      let gap := if half.isSome then [none] else []
      if 0xD800 ≤ unit ∧ unit < 0xDC00 then gap ++ decodeFrom (some unit) leftOver rest
      else gap ++ some (Char.ofNat unit) :: decodeFrom none leftOver rest

/-- The text that bytes write, with a replacement character for every gap. -/
def decodeLossy (order : Order) (bytes : List UInt8) : List Char :=
  let (units, leftOver) := units order bytes
  (decodeFrom none leftOver units).map (·.getD '\uFFFD')

end ProxyWatch.Utf16
