import ProxyWatch.Json.Literal

/-! JSON texts as trees in which every member is kept, in the order of the text.

Reading checks the grammar alone. Whether a number is in range, a string is free of lone surrogates
and the nesting stays within its limit is judged where a part is used, so a part that nobody asks for
is only held to the grammar. -/
namespace ProxyWatch.Json

/-- A number or string without a value is written correctly but stands for none. -/
inductive Source where
  | null
  | bool (value : Bool)
  | number (value : Option Number)
  | string (value : Option String)
  | array (items : List Source)
  | object (members : List (Option String × Source))
  deriving Repr, Inhabited

namespace Source

def isBlank (c : Char) : Bool := c = ' ' || c = '\n' || c = '\t' || c = '\r'

def skipBlank (text : List Char) : List Char := text.dropWhile isBlank

/-- A part of a written string: a character, or a UTF-16 unit given by its number. -/
inductive Piece where
  | char (value : Char)
  | unit (value : Nat)
  deriving Repr, DecidableEq

def hexDigit? (c : Char) : Option Nat :=
  if c.isDigit then some (c.toNat - '0'.toNat)
  else if 'a' ≤ c ∧ c ≤ 'f' then some (c.toNat - 'a'.toNat + 10)
  else if 'A' ≤ c ∧ c ≤ 'F' then some (c.toNat - 'A'.toNat + 10)
  else none

def hexUnit? (a b c d : Char) : Option Nat := do
  pure ((((← hexDigit? a) * 16 + (← hexDigit? b)) * 16 + (← hexDigit? c)) * 16 + (← hexDigit? d))

def escaped? : Char → Option Char
  | '"' => some '"'
  | '\\' => some '\\'
  | '/' => some '/'
  | 'b' => some '\x08'
  | 'f' => some '\x0c'
  | 'n' => some '\n'
  | 'r' => some '\r'
  | 't' => some '\t'
  | _ => none

/-- The pieces up to the closing quote. Control characters must be escaped. -/
def readPieces : List Char → Option (List Piece × List Char)
  | [] => none
  | '"' :: rest => some ([], rest)
  | '\\' :: 'u' :: a :: b :: c :: d :: rest => do
    let unit ← hexUnit? a b c d
    let (pieces, after) ← readPieces rest
    pure (.unit unit :: pieces, after)
  | '\\' :: c :: rest => do
    let char ← escaped? c
    let (pieces, after) ← readPieces rest
    pure (.char char :: pieces, after)
  | c :: rest =>
    if c = '\\' ∨ c < ' ' then none
    else do
      let (pieces, after) ← readPieces rest
      pure (.char c :: pieces, after)

/-- The characters that the pieces write: two units of a surrogate pair make one, and a surrogate
alone makes none. -/
def joinPieces : List Piece → Option (List Char)
  | [] => some []
  | .char c :: rest => do pure (c :: (← joinPieces rest))
  | .unit n :: .unit m :: rest =>
    if 0xD800 ≤ n ∧ n < 0xDC00 then
      if 0xDC00 ≤ m ∧ m < 0xE000 then do
        pure (Char.ofNat (0x10000 + (n - 0xD800) * 0x400 + (m - 0xDC00)) :: (← joinPieces rest))
      else none
    else if 0xDC00 ≤ n ∧ n < 0xE000 then none
    else do pure (Char.ofNat n :: (← joinPieces (.unit m :: rest)))
  | .unit n :: rest =>
    if 0xD800 ≤ n ∧ n < 0xE000 then none else do pure (Char.ofNat n :: (← joinPieces rest))

/-- Reads a string whose opening quote has been read. -/
def readString (text : List Char) : Option (Option String × List Char) := do
  let (pieces, rest) ← readPieces text
  pure ((joinPieces pieces).map String.ofList, rest)

def startsNumber (c : Char) : Bool := c = '-' || c.isDigit

mutual

/-- Reads one value. Every call spends one unit of fuel, and no call is made without reading on. -/
def readValue : Nat → List Char → Option (Source × List Char)
  | 0, _ => none
  | fuel + 1, text =>
    match skipBlank text with
    | 'n' :: 'u' :: 'l' :: 'l' :: rest => some (.null, rest)
    | 't' :: 'r' :: 'u' :: 'e' :: rest => some (.bool true, rest)
    | 'f' :: 'a' :: 'l' :: 's' :: 'e' :: rest => some (.bool false, rest)
    | '"' :: rest => (readString rest).map fun (text, after) => (.string text, after)
    | '[' :: rest =>
      match skipBlank rest with
      | ']' :: after => some (.array [], after)
      | rest => (readItems fuel rest).map fun (items, after) => (.array items, after)
    | '\x7b' :: rest =>
      match skipBlank rest with
      | '\x7d' :: after => some (.object [], after)
      | rest => (readMembers fuel rest).map fun (members, after) => (.object members, after)
    | c :: rest =>
      if startsNumber c then
        (Literal.read (c :: rest)).map fun (literal, after) => (.number literal.value?, after)
      else none
    | [] => none

/-- Reads the items of an array from the first on, with the closing bracket. -/
def readItems : Nat → List Char → Option (List Source × List Char)
  | 0, _ => none
  | fuel + 1, text =>
    match readValue fuel text with
    | none => none
    | some (item, rest) =>
      match skipBlank rest with
      | ']' :: after => some ([item], after)
      | ',' :: more => (readItems fuel more).map fun (items, after) => (item :: items, after)
      | _ => none

/-- Reads the members of an object from the first on, with the closing brace. -/
def readMembers : Nat → List Char → Option (List (Option String × Source) × List Char)
  | 0, _ => none
  | fuel + 1, text =>
    match skipBlank text with
    | '"' :: rest =>
      match readString rest with
      | none => none
      | some (name, rest) =>
        match skipBlank rest with
        | ':' :: rest =>
          match readValue fuel rest with
          | none => none
          | some (value, rest) =>
            match skipBlank rest with
            | '\x7d' :: after => some ([(name, value)], after)
            | ',' :: more =>
              (readMembers fuel more).map fun (members, after) => ((name, value) :: members, after)
            | _ => none
        | _ => none
    | _ => none

end

/-- Reads a whole text: one value with nothing but blanks around it. -/
def parse? (text : String) : Option Source :=
  let chars := text.toList
  match readValue (2 * chars.length + 2) chars with
  | some (source, rest) => if (skipBlank rest).isEmpty then some source else none
  | none => none

/-- The deepest nesting of arrays and objects that has a value. -/
def nestingLimit : Nat := 127

mutual

/-- The value of a tree whose arrays and objects nest at most `limit` deep. -/
def value? (limit : Nat) : Source → Option Json
  | .null => some .null
  | .bool b => some (.bool b)
  | .number n => n.map .number
  | .string s => s.map .string
  | .array items =>
    match limit with
    | 0 => none
    | limit + 1 => (values? limit items).map .array
  | .object members =>
    match limit with
    | 0 => none
    | limit + 1 => (members? limit members).map fun found => .object (Dictionary.ofList found)

def values? (limit : Nat) : List Source → Option (List Json)
  | [] => some []
  | item :: rest =>
    match value? limit item, values? limit rest with
    | some value, some values => some (value :: values)
    | _, _ => none

def members? (limit : Nat) : List (Option String × Source) → Option (List (String × Json))
  | [] => some []
  | (name, source) :: rest =>
    match name, value? limit source, members? limit rest with
    | some name, some value, some found => some ((name, value) :: found)
    | _, _, _ => none

end

mutual

/-- A value as a tree. -/
def ofJson : Json → Source
  | .null => .null
  | .bool b => .bool b
  | .number n => .number (some n)
  | .string s => .string (some s)
  | .array items => .array (ofItems items)
  | .object members => .object (ofMembers members)

def ofItems : List Json → List Source
  | [] => []
  | item :: rest => ofJson item :: ofItems rest

def ofMembers : List (String × Json) → List (Option String × Source)
  | [] => []
  | (name, value) :: rest => (some name, ofJson value) :: ofMembers rest

end

end Source

/-- Reads a text strictly: every part must have a value. -/
def parse? (text : String) : Option Json := do (← Source.parse? text).value? Source.nestingLimit

end ProxyWatch.Json
