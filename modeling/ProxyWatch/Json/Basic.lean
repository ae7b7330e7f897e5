import ProxyWatch.Data.Dictionary
import ProxyWatch.Number.Double

/-! JSON values. The members of an object are kept in the order of their names. -/
namespace ProxyWatch
open Number (Double)

/-- Whole numbers from `-2 ^ 63` to `2 ^ 64 - 1` stay whole; all others are doubles. -/
inductive Json.Number where
  | integer (value : Int)
  | double (value : Double)
  deriving DecidableEq, Repr

inductive Json where
  | null
  | bool (value : Bool)
  | number (value : Json.Number)
  | string (value : String)
  | array (items : List Json)
  | object (members : List (String × Json))
  deriving Repr, Inhabited

namespace Json

abbrev Members := Dictionary Json

def ofNat (n : Nat) : Json := .number (.integer n)

def ofInt (n : Int) : Json := .number (.integer n)

def ofOption (f : α → Json) : Option α → Json
  | none => .null
  | some value => f value

/-- The value of a member, if this is an object that has it. -/
def member? (name : String) : Json → Option Json
  | .object members => Dictionary.get? members name
  | _ => none

def members? : Json → Option Members
  | .object members => some members
  | _ => none

def items? : Json → Option (List Json)
  | .array items => some items
  | _ => none

def text? : Json → Option String
  | .string text => some text
  | _ => none

/-- The largest counter. -/
def counterLimit : Nat := Nat.pow 2 64 - 1

/-- Signed whole numbers of 64 bits are below this, and not below its negative. -/
def wholeLimit : Int := (Nat.pow 2 63 : Nat)

/-- A whole number that is not negative. -/
def natural? : Json → Option Nat
  | .number (.integer n) => if 0 ≤ n then some n.toNat else none
  | _ => none

namespace Number

/-- Whole numbers and doubles are never the same; doubles compare by value. -/
def same : Number → Number → Bool
  | .integer m, .integer n => m == n
  | .double x, .double y => x.same y
  | _, _ => false

end Number

mutual

/-- Equality of documents: the two zeros among the doubles are one value. -/
def same : Json → Json → Bool
  | .null, .null => true
  | .bool x, .bool y => x == y
  | .number x, .number y => x.same y
  | .string x, .string y => x == y
  | .array x, .array y => sameItems x y
  | .object x, .object y => sameMembers x y
  | _, _ => false

def sameItems : List Json → List Json → Bool
  | [], [] => true
  | x :: xs, y :: ys => same x y && sameItems xs ys
  | _, _ => false

def sameMembers : List (String × Json) → List (String × Json) → Bool
  | [], [] => true
  | (k, x) :: xs, (l, y) :: ys => k == l && same x y && sameMembers xs ys
  | _, _ => false

end

end Json
end ProxyWatch
