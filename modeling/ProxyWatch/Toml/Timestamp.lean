/-! Dates and times as TOML writes them, in the one spelling that they are handed on in. -/
namespace ProxyWatch.Toml

/-- A number of a fixed count of digits, and the rest. -/
def readFixed (count : Nat) (text : List Char) : Option (Nat × List Char) :=
  let digits := text.take count
  if digits.length = count ∧ digits.all Char.isDigit then
    some (digits.foldl (fun n c => n * 10 + (c.toNat - '0'.toNat)) 0, text.drop count)
  else none

/-- A number written with leading zeros. -/
def padded (width n : Nat) : String :=
  let digits := toString n
  String.ofList (List.replicate (width - digits.length) '0') ++ digits

structure Date where
  year : Nat
  month : Nat
  day : Nat
  deriving DecidableEq, Repr

namespace Date

def isLeap (year : Nat) : Bool := year % 4 == 0 && (year % 100 != 0 || year % 400 == 0)

def monthLength (year month : Nat) : Nat :=
  if month = 2 then (if isLeap year then 29 else 28)
  else if [4, 6, 9, 11].contains month then 30
  else 31

def isValid (date : Date) : Bool :=
  1 ≤ date.month && date.month ≤ 12 && 1 ≤ date.day && date.day ≤ monthLength date.year date.month

def read (text : List Char) : Option (Date × List Char) := do
  let (year, rest) ← readFixed 4 text
  let '-' :: rest := rest | none
  let (month, rest) ← readFixed 2 rest
  let '-' :: rest := rest | none
  let (day, rest) ← readFixed 2 rest
  let date : Date := ⟨year, month, day⟩
  if date.isValid then pure (date, rest) else none

def toText (date : Date) : String :=
  s!"{padded 4 date.year}-{padded 2 date.month}-{padded 2 date.day}"

end Date

/-- A time of day; its fraction is kept to nine digits, without zeros at the end. -/
structure Clock where
  hour : Nat
  minute : Nat
  second : Nat
  fraction : List Char
  deriving DecidableEq, Repr

namespace Clock

def readFraction : List Char → Option (List Char × List Char)
  | '.' :: rest =>
    let digits := rest.takeWhile Char.isDigit
    if digits.isEmpty then none
    else some (((digits.take 9).reverse.dropWhile (· == '0')).reverse, rest.dropWhile Char.isDigit)
  | rest => some ([], rest)

def read (text : List Char) : Option (Clock × List Char) := do
  let (hour, rest) ← readFixed 2 text
  let ':' :: rest := rest | none
  let (minute, rest) ← readFixed 2 rest
  let ':' :: rest := rest | none
  let (second, rest) ← readFixed 2 rest
  let (fraction, rest) ← readFraction rest
  if hour ≤ 23 ∧ minute ≤ 59 ∧ second ≤ 60 then pure (⟨hour, minute, second, fraction⟩, rest)
  else none

def toText (clock : Clock) : String :=
  let fraction := if clock.fraction.isEmpty then "" else "." ++ String.ofList clock.fraction
  s!"{padded 2 clock.hour}:{padded 2 clock.minute}:{padded 2 clock.second}{fraction}"

end Clock

/-- The text of an offset from universal time; none is no text at all. -/
def readOffset : List Char → Option (String × List Char)
  | sign :: rest =>
    if sign = 'Z' ∨ sign = 'z' then some ("Z", rest)
    else if sign = '+' ∨ sign = '-' then do
      let (hours, rest) ← readFixed 2 rest
      let ':' :: rest := rest | none
      let (minutes, rest) ← readFixed 2 rest
      if hours ≤ 23 ∧ minutes ≤ 59 then
        let shown := if hours = 0 ∧ minutes = 0 then '+' else sign
        pure (s!"{shown}{padded 2 hours}:{padded 2 minutes}", rest)
      else none
    else some ("", sign :: rest)
  | [] => some ("", [])

/-- Reads a date, a time of day, or both with or without an offset. A blank between date and time must
have a digit after it. -/
def readTimestamp (text : List Char) : Option (String × List Char) :=
  match Date.read text with
  | none => (Clock.read text).map fun (clock, rest) => (clock.toText, rest)
  | some (date, rest) =>
    let timed (after : List Char) : Option (String × List Char) := do
      let (clock, rest) ← Clock.read after
      let (offset, rest) ← readOffset rest
      pure (date.toText ++ "T" ++ clock.toText ++ offset, rest)
    match rest with
    | 'T' :: after | 't' :: after => timed after
    | ' ' :: digit :: after => if digit.isDigit then timed (digit :: after) else some (date.toText, rest)
    | _ => some (date.toText, rest)

end ProxyWatch.Toml
