import ProxyWatch.Json.Printer
import ProxyWatch.Json.Source
import ProxyWatch.Text.Utf8

/-! Where a text stops being JSON, and why.

The text is gone through once. What is wrong first is named, with the line and the number of the byte
in it. -/
namespace ProxyWatch.Json

inductive Problem where
  | listCut
  | objectCut
  | stringCut
  | valueCut
  | colonExpected
  | listEndExpected
  | objectEndExpected
  | wordExpected
  | valueExpected
  | badEscape
  | badNumber
  | outOfRange
  | control
  | nameExpected
  | loneSurrogate
  | surrogateCut
  | trailingComma
  | trailingText
  | tooDeep
  deriving DecidableEq, Repr

def Problem.message : Problem → String
  | listCut => "EOF while parsing a list"
  | objectCut => "EOF while parsing an object"
  | stringCut => "EOF while parsing a string"
  | valueCut => "EOF while parsing a value"
  | colonExpected => "expected `:`"
  | listEndExpected => "expected `,` or `]`"
  | objectEndExpected => "expected `,` or `\x7d`"
  | wordExpected => "expected ident"
  | valueExpected => "expected value"
  | badEscape => "invalid escape"
  | badNumber => "invalid number"
  | outOfRange => "number out of range"
  | control => "control character (\\u0000-\\u001F) found while parsing a string"
  | nameExpected => "key must be a string"
  | loneSurrogate => "lone leading surrogate in hex escape"
  | surrogateCut => "unexpected end of hex escape"
  | trailingComma => "trailing comma"
  | trailingText => "trailing characters"
  | tooDeep => "recursion limit exceeded"

/-- A problem some bytes past the beginning of the rest of a text. -/
structure Fault where
  problem : Problem
  rest : List Char
  past : Nat
  deriving DecidableEq, Repr

namespace Fault
open Source (skipBlank hexUnit? escaped?)

/-- What is left of a text behind a part that has nothing wrong. -/
abbrev Remainder := Except Fault (List Char)

def cut (problem : Problem) : Remainder := .error ⟨problem, [], 0⟩

/-- A problem with the first character of the rest. -/
def here (problem : Problem) (rest : List Char) : Remainder := .error ⟨problem, rest, 1⟩

def byteCount (text : List Char) : Nat := text.foldl (fun n c => n + c.utf8Size) 0

def afterWord : List Char → List Char → Remainder
  | [], rest => .ok rest
  | _ :: _, [] => cut .valueCut
  | expected :: word, c :: rest =>
    if c = expected then afterWord word rest else here .wordExpected (c :: rest)

/-- The unit that four digits write, and what follows them. -/
def readUnit (text : List Char) : Except Fault (Nat × List Char) :=
  if byteCount (text.take 4) < 4 then .error ⟨.stringCut, [], 0⟩
  else
    match text with
    | a :: b :: c :: d :: rest =>
      match hexUnit? a b c d with
      | some unit => .ok (unit, rest)
      | none => .error ⟨.badEscape, text, 4⟩
    | _ => .error ⟨.badEscape, text, 4⟩

/-- The second half of a surrogate pair. -/
def afterPair : List Char → Remainder
  | [] => cut .stringCut
  | '\\' :: [] => cut .stringCut
  | '\\' :: 'u' :: text => do
    let (unit, rest) ← readUnit text
    if 0xDC00 ≤ unit ∧ unit < 0xE000 then .ok rest else .error ⟨.loneSurrogate, rest, 0⟩
  | '\\' :: rest => here .surrogateCut rest
  | rest => here .surrogateCut rest

def afterUnit (text : List Char) : Remainder := do
  let (unit, rest) ← readUnit text
  if 0xDC00 ≤ unit ∧ unit < 0xE000 then .error ⟨.loneSurrogate, rest, 0⟩
  else if 0xD800 ≤ unit ∧ unit < 0xDC00 then afterPair rest
  else .ok rest

/-- What follows a string whose opening quote is behind. Every round takes up a character at least. -/
def afterString : Nat → List Char → Remainder
  | 0, _ | _, [] => cut .stringCut
  | _ + 1, '"' :: rest => .ok rest
  | _ + 1, '\\' :: [] => cut .stringCut
  | fuel + 1, '\\' :: 'u' :: rest => do afterString fuel (← afterUnit rest)
  | fuel + 1, '\\' :: c :: rest =>
    if (escaped? c).isSome then afterString fuel rest else here .badEscape (c :: rest)
  | fuel + 1, c :: rest => if c < ' ' then here .control (c :: rest) else afterString fuel rest

def badExponent (text : List Char) : Remainder :=
  let digits := match text.drop 1 with
    | '+' :: rest | '-' :: rest | rest => rest
  if digits.isEmpty then cut .valueCut else here .badNumber digits

/-- What is wrong with a number that is not one. -/
def badNumber (text : List Char) : Remainder :=
  let unsigned := match text with
    | '-' :: rest | rest => rest
  match unsigned, Literal.readDigits unsigned with
  | [], _ => cut .valueCut
  | _, ([], rest) => here .badNumber rest
  | _ :: rest, (0 :: _ :: _, _) => here .badNumber rest
  | _, (_, '.' :: rest) =>
    match Literal.readDigits rest with
    | ([], []) => cut .valueCut
    | ([], rest) => here .badNumber rest
    | (_, rest) => badExponent rest
  | _, (_, rest) => badExponent rest

def afterNumber (text : List Char) : Remainder :=
  match Literal.read text with
  | none => badNumber text
  | some (literal, rest) =>
    if literal.value?.isSome then .ok rest else .error ⟨.outOfRange, rest, 0⟩

mutual

/-- What follows a value that may hold arrays and objects as deep as a limit. -/
def afterValue : Nat → Nat → List Char → Remainder
  | 0, _, _ => cut .valueCut
  | fuel + 1, limit, text =>
    match skipBlank text with
    | [] => cut .valueCut
    | 'n' :: rest => afterWord ['u', 'l', 'l'] rest
    | 't' :: rest => afterWord ['r', 'u', 'e'] rest
    | 'f' :: rest => afterWord ['a', 'l', 's', 'e'] rest
    | '"' :: rest => afterString (rest.length + 1) rest
    | '[' :: rest =>
      if limit = 0 then here .tooDeep ('[' :: rest)
      else
        match skipBlank rest with
        | [] => cut .listCut
        | ']' :: rest => .ok rest
        | rest => afterItems fuel (limit - 1) rest
    | '\x7b' :: rest =>
      if limit = 0 then here .tooDeep ('\x7b' :: rest)
      else
        match skipBlank rest with
        | [] => cut .objectCut
        | '\x7d' :: rest => .ok rest
        | rest => afterMembers fuel (limit - 1) rest
    | c :: rest =>
      if Source.startsNumber c then afterNumber (c :: rest) else here .valueExpected (c :: rest)

/-- What follows an array from its first item on. -/
def afterItems : Nat → Nat → List Char → Remainder
  | 0, _, _ => cut .listCut
  | fuel + 1, limit, text => do
    match skipBlank (← afterValue fuel limit text) with
    | [] => cut .listCut
    | ']' :: rest => .ok rest
    | ',' :: rest =>
      match skipBlank rest with
      | [] => cut .valueCut
      | ']' :: rest => here .trailingComma (']' :: rest)
      | rest => afterItems fuel limit rest
    | rest => here .listEndExpected rest

/-- What follows an object from the name of its first member on. -/
def afterMembers : Nat → Nat → List Char → Remainder
  | 0, _, _ => cut .objectCut
  | fuel + 1, limit, text =>
    match text with
    | '"' :: name => do
      match skipBlank (← afterString (name.length + 1) name) with
      | [] => cut .objectCut
      | ':' :: rest =>
        match skipBlank (← afterValue fuel limit rest) with
        | [] => cut .objectCut
        | '\x7d' :: rest => .ok rest
        | ',' :: rest =>
          match skipBlank rest with
          | [] => cut .valueCut
          | '\x7d' :: rest => here .trailingComma ('\x7d' :: rest)
          | rest => afterMembers fuel limit rest
        | rest => here .objectEndExpected rest
      | rest => here .colonExpected rest
    | rest => here .nameExpected rest

end

/-- The first problem of a text, if there is one. -/
def find? (text : List Char) : Option Fault :=
  match afterValue (2 * text.length + 2) Source.nestingLimit text with
  | .error fault => some fault
  | .ok rest =>
    match skipBlank rest with
    | [] => none
    | rest => some ⟨.trailingText, rest, 1⟩

/-- The line of a place in a text and the byte in the line, both counted from one. -/
def place (text : List Char) (fault : Fault) : Nat × Nat :=
  let bytes := text.flatMap Utf8.encodeChar
  let before := bytes.take (bytes.length - byteCount fault.rest + fault.past)
  let newline := '\n'.toNat.toUInt8
  (before.count newline + 1, (before.reverse.takeWhile (· != newline)).length)

end Fault

/-- What is said of a text that is no JSON. -/
def complaint (text : String) : String :=
  match Fault.find? text.toList with
  | none => ""
  | some fault =>
    let (line, column) := fault.place text.toList
    s!"{fault.problem.message} at line {line} column {column}"

/-- A value as a message names it that expected another. -/
def describe : Json → String
  | null => "null"
  | bool value => s!"boolean `{value}`"
  | number (.integer value) => s!"integer `{value}`"
  | number (.double value) => s!"floating point `{value.toText}`"
  | string value => s!"string {quoted value.toList}"
  | array _ => "sequence"
  | object _ => "map"
where
  quoted (text : List Char) : String := String.ofList ('"' :: (text.flatMap escapeShown ++ ['"']))
  escapeShown (c : Char) : List Char :=
    if c = '\x00' then ['\\', '0']
    else if c = '\t' ∨ c = '\n' ∨ c = '\r' ∨ c = '"' ∨ c = '\\' then escape c
    else if c < ' ' ∨ c = '\x7f' then '\\' :: 'u' :: '\x7b' :: (Nat.toDigits 16 c.toNat ++ ['\x7d'])
    else [c]

end ProxyWatch.Json
