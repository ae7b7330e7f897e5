import ProxyWatch.Json.Source
import ProxyWatch.Toml.Basic
import ProxyWatch.Toml.Timestamp

/-! Reading TOML texts: keys, values and statements. -/
namespace ProxyWatch.Toml
open Number (Floating)

/-- Control characters may stand nowhere but in escapes, the tab aside. -/
def isControl (c : Char) : Bool := (c < ' ' && c != '\t') || c == '\x7f'

def isBlank (c : Char) : Bool := c = ' ' || c = '\t'

def skipBlanks (text : List Char) : List Char := text.dropWhile isBlank

/-- The rest after the end of a line. -/
def afterLineEnd? : List Char → Option (List Char)
  | '\n' :: rest => some rest
  | '\r' :: '\n' :: rest => some rest
  | _ => none

/-- The rest after a comment, if one begins here. -/
def skipComment (text : List Char) : List Char :=
  match text with
  | '#' :: rest => rest.dropWhile (!isControl ·)
  | _ => text

/-- Blanks, line ends and comments. -/
def skipLines : Nat → List Char → List Char
  | 0, text => text
  | fuel + 1, text =>
    let rest := skipComment (skipBlanks text)
    match afterLineEnd? rest with
    | some next => skipLines fuel next
    | none => rest

def hexValue? (digits : List Char) : Option Nat :=
  digits.foldlM (fun n c => (Json.Source.hexDigit? c).map (n * 16 + ·)) 0

def scalar? (n : Nat) : Option Char := if h : n.isValidChar then some (Char.ofNatAux n h) else none

/-- The character of an escape, after the backslash. -/
def readEscape : List Char → Option (Char × List Char)
  | 'b' :: rest => some ('\x08', rest)
  | 't' :: rest => some ('\t', rest)
  | 'n' :: rest => some ('\n', rest)
  | 'f' :: rest => some ('\x0c', rest)
  | 'r' :: rest => some ('\r', rest)
  | '"' :: rest => some ('"', rest)
  | '\\' :: rest => some ('\\', rest)
  | 'u' :: rest => do
    if rest.length < 4 then none else pure (← scalar? (← hexValue? (rest.take 4)), rest.drop 4)
  | 'U' :: rest => do
    if rest.length < 8 then none else pure (← scalar? (← hexValue? (rest.take 8)), rest.drop 8)
  | _ => none

/-- The rest of a string on one line, up to its closing quote. -/
def readBasic : Nat → List Char → Option (List Char × List Char)
  | 0, _ => none
  | fuel + 1, text =>
    match text with
    | [] => none
    | '"' :: rest => some ([], rest)
    | '\\' :: rest => do
      let (c, rest) ← readEscape rest
      let (chars, rest) ← readBasic fuel rest
      pure (c :: chars, rest)
    | c :: rest =>
      if isControl c then none
      else (readBasic fuel rest).map fun (chars, rest) => (c :: chars, rest)

def readLiteral : List Char → Option (List Char × List Char)
  | [] => none
  | '\'' :: rest => some ([], rest)
  | c :: rest =>
    if isControl c then none else (readLiteral rest).map fun (chars, rest) => (c :: chars, rest)

/-- A line break right after the opening quotes does not count. -/
def dropFirstLineEnd (text : List Char) : List Char := (afterLineEnd? text).getD text

/-- Quotes in a string of several lines: three or more close it, and up to two of them before the
last three belong to it. -/
def closing? (quote : Char) (text : List Char) : Option (List Char × List Char) :=
  let count := min 5 (text.takeWhile (· == quote)).length
  if count < 3 then none else some (List.replicate (count - 3) quote, text.drop count)

/-- Blanks and line ends, as a backslash at the end of a line skips them. -/
def skipWhite (text : List Char) : List Char :=
  text.dropWhile fun c => isBlank c || c == '\n' || c == '\r'

/-- The rest of a string of several lines, with or without escapes. -/
def readLong (quote : Char) : Nat → List Char → Option (List Char × List Char)
  | 0, _ => none
  | fuel + 1, text =>
    match closing? quote text with
    | some found => some found
    | none =>
      match afterLineEnd? text with
      | some rest => (readLong quote fuel rest).map fun (chars, rest) => ('\n' :: chars, rest)
      | none =>
        match text with
        | [] => none
        | c :: rest =>
          if c = '\\' ∧ quote = '"' then
            match afterLineEnd? (skipBlanks rest) with
            | some _ => readLong quote fuel (skipWhite rest)
            | none => do
              let (c, rest) ← readEscape rest
              let (chars, rest) ← readLong quote fuel rest
              pure (c :: chars, rest)
          else if isControl c then none
          else (readLong quote fuel rest).map fun (chars, rest) => (c :: chars, rest)

/-- Reads a string of any of the four kinds. -/
def readText (text : List Char) : Option (String × List Char) :=
  let found : Option (List Char × List Char) := match text with
    | '"' :: '"' :: '"' :: rest => readLong '"' (rest.length + 1) (dropFirstLineEnd rest)
    | '\'' :: '\'' :: '\'' :: rest => readLong '\'' (rest.length + 1) (dropFirstLineEnd rest)
    | '"' :: rest => readBasic (rest.length + 1) rest
    | '\'' :: rest => readLiteral rest
    | _ => none
  found.map fun (chars, rest) => (String.ofList chars, rest)

def isBare (c : Char) : Bool := c.isAlphanum || c = '_' || c = '-'

/-- Reads one part of a key. -/
def readPart (text : List Char) : Option (String × List Char) :=
  match text with
  | '"' :: rest => (readBasic (rest.length + 1) rest).map fun (c, rest) => (String.ofList c, rest)
  | '\'' :: rest => (readLiteral rest).map fun (c, rest) => (String.ofList c, rest)
  | _ =>
    let bare := text.takeWhile isBare
    if bare.isEmpty then none else some (String.ofList bare, text.dropWhile isBare)

/-- Reads the parts of a dotted key, with the blanks after it. -/
def readKey : Nat → List Char → Option (List String × List Char)
  | 0, _ => none
  | fuel + 1, text => do
    let (part, rest) ← readPart (skipBlanks text)
    match skipBlanks rest with
    | '.' :: next => (readKey fuel next).map fun (parts, rest) => (part :: parts, rest)
    | rest => pure ([part], rest)

/-- Digits with single underscores between them, without the underscores. -/
def groupedDigits? (isDigit : Char → Bool) (text : List Char) : Option (List Char) :=
  let rec go : List Char → Option (List Char)
    | [] => none
    | [c] => if isDigit c then some [c] else none
    | c :: '_' :: rest => if isDigit c then (go rest).map (c :: ·) else none
    | c :: rest => if isDigit c then (go rest).map (c :: ·) else none
  go text

def inRange? (n : Int) : Option Int :=
  if -Json.wholeLimit ≤ n ∧ n < Json.wholeLimit then some n else none

def based? (base : Nat) (digits : List Char) : Option Int := do
  let digits ← groupedDigits? (fun c => (Json.Source.hexDigit? c).any (· < base)) digits
  let value ← digits.foldlM (fun n c => (Json.Source.hexDigit? c).map (n * base + ·)) 0
  inRange? value

/-- Decimal digits without a leading zero, zero aside. -/
def decimalDigits? (text : List Char) : Option (List Char) := do
  let digits ← groupedDigits? Char.isDigit text
  match digits with
  | '0' :: _ :: _ => none
  | _ => pure digits

def integer? (text : List Char) : Option Int :=
  match text with
  | '0' :: 'x' :: digits => based? 16 digits
  | '0' :: 'o' :: digits => based? 8 digits
  | '0' :: 'b' :: digits => based? 2 digits
  | _ => do
    let (negative, body) := Floating.splitSign text
    let value : Int := Floating.digitsValue (← decimalDigits? body)
    inRange? (if negative then -value else value)

/-- A number with a fraction, an exponent or both. It must not be past the finite range. -/
def fractional? (negative : Bool) (body : List Char) : Option Floating := do
  let isMark (c : Char) : Bool := c == 'e' || c == 'E'
  let mantissa := body.takeWhile (!isMark ·)
  let tail := (body.dropWhile (!isMark ·)).drop 1
  let hasExponent := mantissa.length < body.length
  let whole ← decimalDigits? (mantissa.takeWhile (· != '.'))
  let fraction ← match mantissa.dropWhile (· != '.') with
    | [] => if hasExponent then some [] else none
    | _ :: digits => groupedDigits? Char.isDigit digits
  let exponent : Int ←
    if hasExponent then do
      let (below, digits) := Floating.splitSign tail
      let size : Int := Floating.digitsValue (← groupedDigits? Char.isDigit digits)
      pure (if below then -size else size)
    else pure 0
  match Floating.ofDecimal negative (Floating.digitsValue (whole ++ fraction))
      (exponent - fraction.length) with
  | .infinite _ => none
  | value => pure value

def number? (text : List Char) : Option Toml :=
  match integer? text with
  | some n => some (.integer n)
  | none =>
    let (negative, body) := Floating.splitSign text
    match body with
    | ['i', 'n', 'f'] => some (.floating (.infinite negative))
    | ['n', 'a', 'n'] => some (.floating .undefined)
    | _ => (fractional? negative body).map .floating

def isNumberChar (c : Char) : Bool := c.isAlphanum || c = '_' || c = '-' || c = '+' || c = '.'

/-- Reads a timestamp or a number. -/
def readScalar (text : List Char) : Option (Toml × List Char) :=
  match readTimestamp text with
  | some (value, rest) => some (.timestamp value, rest)
  | none =>
    (number? (text.takeWhile isNumberChar)).map fun value => (value, text.dropWhile isNumberChar)

mutual

/-- Reads one value. Every call spends one unit of fuel, and no call is made without reading on. -/
def readValue : Nat → List Char → Option (Toml × List Char)
  | 0, _ => none
  | fuel + 1, text =>
    match text with
    | '"' :: _ | '\'' :: _ => (readText text).map fun (value, rest) => (.string value, rest)
    | 't' :: 'r' :: 'u' :: 'e' :: rest => some (.bool true, rest)
    | 'f' :: 'a' :: 'l' :: 's' :: 'e' :: rest => some (.bool false, rest)
    | '[' :: rest => (readItems fuel rest).map fun (items, rest) => (.array items, rest)
    | '\x7b' :: rest =>
      match skipBlanks rest with
      | '\x7d' :: rest => some (.table .inline [], rest)
      | rest => (readPairs fuel [] rest).map fun (members, rest) => (.table .inline members, rest)
    | _ => readScalar text

/-- Reads the items of an array up to its bracket; a comma may follow the last. -/
def readItems : Nat → List Char → Option (List Toml × List Char)
  | 0, _ => none
  | fuel + 1, text =>
    match skipLines text.length text with
    | ']' :: rest => some ([], rest)
    | rest =>
      match readValue fuel rest with
      | none => none
      | some (item, rest) =>
        match skipLines rest.length rest with
        | ']' :: rest => some ([item], rest)
        | ',' :: rest => (readItems fuel rest).map fun (items, rest) => (item :: items, rest)
        | _ => none

/-- Reads the pairs of an inline table up to its brace, all on one line. -/
def readPairs : Nat → Members → List Char → Option (Members × List Char)
  | 0, _, _ => none
  | fuel + 1, members, text =>
    match readKey (text.length + 1) text with
    | some (path, '=' :: rest) =>
      match readValue fuel (skipBlanks rest) with
      | none => none
      | some (value, rest) =>
        match members.define path value, skipBlanks rest with
        | some members, '\x7d' :: rest => some (members, rest)
        | some members, ',' :: rest => readPairs fuel members rest
        | _, _ => none
    | _ => none

end

/-- The rest after the end of a statement: a line ends there, maybe after a comment, or the text. -/
def afterStatement? (text : List Char) : Option (List Char) :=
  match skipComment (skipBlanks text) with
  | [] => some []
  | rest => afterLineEnd? rest

def readStatement (text : List Char) : Option (Statement × List Char) := do
  match text with
  | '[' :: '[' :: rest => do
    let (path, rest) ← readKey (rest.length + 1) rest
    let ']' :: ']' :: rest := rest | none
    pure (.element path, rest)
  | '[' :: rest => do
    let (path, rest) ← readKey (rest.length + 1) rest
    let ']' :: rest := rest | none
    pure (.header path, rest)
  | _ => do
    let (path, rest) ← readKey (text.length + 1) text
    let '=' :: rest := rest | none
    let (value, rest) ← readValue (rest.length + 1) (skipBlanks rest)
    pure (.pair path value, rest)

def readStatements : Nat → List Char → Option (List Statement)
  | 0, _ => none
  | fuel + 1, text =>
    match skipLines (text.length + 1) text with
    | [] => some []
    | rest => do
      let (statement, rest) ← readStatement rest
      pure (statement :: (← readStatements fuel (← afterStatement? rest)))

/-- The root table of a text. -/
def parse? (text : String) : Option Members := do
  build [] [] (← readStatements (text.length + 2) text.toList)

end ProxyWatch.Toml
