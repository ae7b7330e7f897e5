import ProxyWatch.Json.Basic
import ProxyWatch.Number.Shortest

/-! JSON texts written from values: compact, and indented by two spaces. Members are written in the
order in which the value holds them. -/
namespace ProxyWatch.Json

def hexChar (n : Nat) : Char := if n < 10 then Char.ofNat (48 + n) else Char.ofNat (87 + n)

/-- Only quotes, backslashes and control characters are escaped. -/
def escape (c : Char) : List Char :=
  if c = '"' then ['\\', '"']
  else if c = '\\' then ['\\', '\\']
  else if c = '\x08' then ['\\', 'b']
  else if c = '\x0c' then ['\\', 'f']
  else if c = '\n' then ['\\', 'n']
  else if c = '\r' then ['\\', 'r']
  else if c = '\t' then ['\\', 't']
  else if c < ' ' then ['\\', 'u', '0', '0', hexChar (c.toNat / 16), hexChar (c.toNat % 16)]
  else [c]

def renderString (text : String) : List Char := '"' :: (text.toList.flatMap escape ++ ['"'])

def renderInteger (n : Int) : List Char :=
  if n < 0 then '-' :: Nat.toDigits 10 n.natAbs else Nat.toDigits 10 n.natAbs

def Number.render : Number → List Char
  | .integer n => renderInteger n
  | .double x => x.toText.toList

mutual

/-- The compact text. -/
def render : Json → List Char
  | .null => ['n', 'u', 'l', 'l']
  | .bool true => ['t', 'r', 'u', 'e']
  | .bool false => ['f', 'a', 'l', 's', 'e']
  | .number n => n.render
  | .string s => renderString s
  | .array [] => ['[', ']']
  | .array (item :: rest) => '[' :: (render item ++ renderItems rest)
  | .object [] => ['\x7b', '\x7d']
  | .object ((name, value) :: rest) =>
    '\x7b' :: (renderString name ++ ':' :: (render value ++ renderMembers rest))

/-- What follows the first item of an array. -/
def renderItems : List Json → List Char
  | [] => [']']
  | item :: rest => ',' :: (render item ++ renderItems rest)

/-- What follows the first member of an object. -/
def renderMembers : List (String × Json) → List Char
  | [] => ['\x7d']
  | (name, value) :: rest =>
    ',' :: (renderString name ++ ':' :: (render value ++ renderMembers rest))

end

def toText (value : Json) : String := String.ofList value.render

def newline (depth : Nat) : List Char := '\n' :: List.replicate (2 * depth) ' '

mutual

/-- The indented text at a depth. -/
def renderIndented (depth : Nat) : Json → List Char
  | .array (item :: rest) =>
    '[' :: (newline (depth + 1) ++ renderIndented (depth + 1) item ++ indentedItems depth rest)
  | .object ((name, value) :: rest) =>
    '\x7b' :: (newline (depth + 1) ++ renderString name ++ ':' :: ' ' ::
      (renderIndented (depth + 1) value ++ indentedMembers depth rest))
  | value => value.render

def indentedItems (depth : Nat) : List Json → List Char
  | [] => newline depth ++ [']']
  | item :: rest =>
    ',' :: (newline (depth + 1) ++ renderIndented (depth + 1) item ++ indentedItems depth rest)

def indentedMembers (depth : Nat) : List (String × Json) → List Char
  | [] => newline depth ++ ['\x7d']
  | (name, value) :: rest =>
    ',' :: (newline (depth + 1) ++ renderString name ++ ':' :: ' ' ::
      (renderIndented (depth + 1) value ++ indentedMembers depth rest))

end

def toIndentedText (value : Json) : String := String.ofList (value.renderIndented 0)

end ProxyWatch.Json
