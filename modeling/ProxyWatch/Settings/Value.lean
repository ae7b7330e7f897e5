import ProxyWatch.Json.Basic
import ProxyWatch.Number.Floating
import ProxyWatch.Toml.Basic

/-! The values that a source of settings gives, and what a setting reads out of them. -/
namespace ProxyWatch
open Number (Floating)

inductive SettingValue where
  | nothing
  | bool (value : Bool)
  | integer (value : Int)
  | floating (value : Floating)
  | string (value : String)
  | composite
  deriving DecidableEq, Repr

namespace SettingValue

/-- Whole numbers past the signed range are floating ones. -/
def ofJson : Json → SettingValue
  | .null => nothing
  | .bool value => bool value
  | .number (.integer n) =>
    if n < Json.wholeLimit then integer n else floating (.ofDecimal false n.toNat 0)
  | .number (.double value) => floating (.finite value)
  | .string value => string value
  | .array _ | .object _ => composite

def ofToml : Toml → SettingValue
  | .string value | .timestamp value => string value
  | .integer value => integer value
  | .floating value => floating value
  | .bool value => bool value
  | .array _ | .tables _ | .table _ _ => composite

/-- Digits after a sign that may be left out. -/
def wholeNumber? (text : String) : Option Int :=
  let (negative, digits) := Floating.splitSign text.toList
  if digits.isEmpty || !digits.all Char.isDigit then none
  else
    let size : Int := Floating.digitsValue digits
    some (if negative then -size else size)

/-- A text from the environment is a truth value, a whole number or a floating one if it reads as
such. -/
def ofVariable (text : String) : SettingValue :=
  match String.ofList (text.toList.map Char.toLower) with
  | "true" => bool true
  | "false" => bool false
  | _ =>
    match wholeNumber? text with
    | some n =>
      if -Json.wholeLimit ≤ n ∧ n < Json.wholeLimit then integer n
      else floating ((Floating.parse? text).getD .undefined)
    | none =>
      match Floating.parse? text with
      | some value => floating value
      | none => string text

/-- The word of a truth value, in any case. -/
def switch? (text : String) : Option Bool :=
  match String.ofList (text.toList.map Char.toLower) with
  | "true" | "on" | "yes" => some true
  | "false" | "off" | "no" => some false
  | _ => none

/-- A counter up to 64 bits: a text may be a switch or digits, and a floating number is rounded. -/
def counter? : SettingValue → Option Nat
  | bool value => some value.toNat
  | integer n => if 0 ≤ n then some n.toNat else none
  | floating value => some (value.rounded Json.counterLimit)
  | string text =>
    match switch? text with
    | some value => some value.toNat
    | none =>
      match text.toList with
      | '-' :: _ => none
      | _ => do
        let n ← wholeNumber? text
        if n.toNat ≤ Json.counterLimit then pure n.toNat else none
  | nothing | composite => none

/-- A counter within a limit. -/
def counterUpTo? (limit : Nat) (value : SettingValue) : Option Nat := do
  let n ← value.counter?
  if n ≤ limit then pure n else none

/-- The text of any scalar. -/
def text? : SettingValue → Option String
  | string text => some text
  | bool value => some (if value then "true" else "false")
  | integer n => some (toString n)
  | floating value => some value.toText
  | nothing | composite => none

/-- A text that may be left empty on purpose. -/
def optionalText? : SettingValue → Option (Option String)
  | nothing => some none
  | value => value.text?.map some

end SettingValue
end ProxyWatch
