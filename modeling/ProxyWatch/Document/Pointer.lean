import ProxyWatch.Json.Basic

/-! JSON pointers: texts that name a place in a document, as lists of unescaped tokens. -/
namespace ProxyWatch

structure Pointer where
  tokens : List String
  deriving DecidableEq, Repr

namespace Pointer

/-- A tilde stands for itself as `~0` and for a slash as `~1`, and nowhere else. -/
def unescape : List Char → Option (List Char)
  | [] => some []
  | '~' :: '0' :: rest => (unescape rest).map ('~' :: ·)
  | '~' :: '1' :: rest => (unescape rest).map ('/' :: ·)
  | c :: rest => if c = '~' then none else (unescape rest).map (c :: ·)

def escape : List Char → List Char
  | [] => []
  | c :: rest =>
    if c = '~' then '~' :: '0' :: escape rest
    else if c = '/' then '~' :: '1' :: escape rest
    else c :: escape rest

/-- The parts between slashes. -/
def split : List Char → List (List Char)
  | [] => [[]]
  | '/' :: rest => [] :: split rest
  | c :: rest =>
    match split rest with
    | [] => [[c]]
    | part :: parts => (c :: part) :: parts

/-- The empty text is the whole document; any other text starts with a slash. -/
def parse? (text : String) : Option Pointer :=
  match text.toList with
  | [] => some ⟨[]⟩
  | '/' :: rest => ((split rest).mapM unescape).map fun tokens => ⟨tokens.map String.ofList⟩
  | _ => none

def toText (p : Pointer) : String :=
  String.ofList (p.tokens.flatMap fun token => '/' :: escape token.toList)

/-- The place of an item: decimal digits without a leading zero. -/
def arrayIndex? (token : String) : Option Nat :=
  match token.toList with
  | [] => none
  | ['0'] => some 0
  | '0' :: _ => none
  | digits =>
    if digits.all Char.isDigit then
      some (digits.foldl (fun n c => n * 10 + (c.toNat - '0'.toNat)) 0)
    else none

end Pointer

namespace Json

/-- The value at a place. -/
def at? : List String → Json → Option Json
  | [], value => some value
  | token :: rest, .object members => (Dictionary.get? members token).bind (at? rest)
  | token :: rest, .array items => do at? rest (← items[← Pointer.arrayIndex? token]?)
  | _ :: _, _ => none

/-- Changes the value at a place and nothing beside it. -/
def modify? (change : Json → Option Json) : List String → Json → Option Json
  | [], value => change value
  | token :: rest, .object members => do
    let child ← modify? change rest (← Dictionary.get? members token)
    pure (.object (Dictionary.insert members token child))
  | token :: rest, .array items => do
    let index ← Pointer.arrayIndex? token
    let child ← modify? change rest (← items[index]?)
    pure (.array (items.set index child))
  | _ :: _, _ => none

/-- Puts a value under a token: members are replaced, items move up, and `-` is the end of an array. -/
def insertChild? (token : String) (value : Json) : Json → Option Json
  | .object members => some (.object (Dictionary.insert members token value))
  | .array items =>
    if token = "-" then some (.array (items ++ [value]))
    else do
      let index ← Pointer.arrayIndex? token
      if index ≤ items.length then some (.array (items.insertIdx index value)) else none
  | _ => none

def removeChild? (token : String) : Json → Option Json
  | .object members =>
    if Dictionary.contains members token then some (.object (Dictionary.erase members token)) else none
  | .array items => do
    let index ← Pointer.arrayIndex? token
    if index < items.length then some (.array (items.eraseIdx index)) else none
  | _ => none

end Json

namespace Pointer

/-- The parent of a place and the last token; the whole document has none. -/
def parent? (p : Pointer) : Option (List String × String) :=
  p.tokens.getLast?.map fun last => (p.tokens.dropLast, last)

def get? (p : Pointer) (document : Json) : Option Json := document.at? p.tokens

def insert? (p : Pointer) (value document : Json) : Option Json :=
  match p.parent? with
  | none => some value
  | some (parent, last) => document.modify? (Json.insertChild? last value) parent

def remove? (p : Pointer) (document : Json) : Option Json := do
  let (parent, last) ← p.parent?
  document.modify? (Json.removeChild? last) parent

def replace? (p : Pointer) (value document : Json) : Option Json :=
  document.modify? (fun _ => some value) p.tokens

/-- A place strictly inside the value at another place. -/
def isInside (inner outer : Pointer) : Bool :=
  outer.tokens.isPrefixOf inner.tokens && outer.tokens.length < inner.tokens.length

end Pointer
end ProxyWatch
