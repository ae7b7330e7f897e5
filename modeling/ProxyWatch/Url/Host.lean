import ProxyWatch.Text.Utf8
import ProxyWatch.Url.Percent

/-! Hosts: domain names, IPv4 and IPv6 addresses. -/
namespace ProxyWatch.Url

/-- Why a text is not a url. -/
inductive ParseError where
  | emptyHost
  | invalidDomain
  | invalidPort
  | invalidIpv4
  | invalidIpv6
  | invalidHostCharacter
  | missingScheme
  deriving DecidableEq, Repr

def ParseError.message : ParseError → String
  | emptyHost => "empty host"
  | invalidDomain => "invalid international domain name"
  | invalidPort => "invalid port number"
  | invalidIpv4 => "invalid IPv4 address"
  | invalidIpv6 => "invalid IPv6 address"
  | invalidHostCharacter => "invalid domain character"
  | missingScheme => "relative URL without a base"

inductive Host where
  | domain (name : String)
  | ipv4 (address : Nat)
  | ipv6 (pieces : List Nat)
  deriving DecidableEq, Repr

/-- The parts of a text between separators. -/
def splitOn (separator : Char) : List Char → List (List Char)
  | [] => [[]]
  | c :: rest =>
    if c = separator then [] :: splitOn separator rest
    else
      match splitOn separator rest with
      | [] => [[c]]
      | part :: parts => (c :: part) :: parts

def joinWith (separator : List Char) : List (List Char) → List Char
  | [] => []
  | [part] => part
  | part :: rest => part ++ separator ++ joinWith separator rest

/-- The number that digits of a base write; none if one is not such a digit. -/
def readBase (base : Nat) (digits : List Char) : Option Nat :=
  digits.foldlM (fun n c => do
    let d ← hexValue? c
    if d < base then some (n * base + d) else none) 0

namespace Ipv4

/-- A number of an address: hexadecimal after `0x`, octal after `0`, decimal otherwise. -/
def readNumber : List Char → Option Nat
  | [] => none
  | '0' :: 'x' :: digits => readBase 16 digits
  | '0' :: 'X' :: digits => readBase 16 digits
  | ['0'] => some 0
  | '0' :: digits => readBase 8 digits
  | digits => readBase 10 digits

def parts (name : List Char) : List (List Char) :=
  let parts := splitOn '.' name
  if parts.getLast? = some [] then parts.dropLast else parts

/-- A name whose last part is a number can only be an address. -/
def endsInNumber (name : List Char) : Bool :=
  match (parts name).getLast? with
  | none => false
  | some last => (!last.isEmpty && last.all Char.isDigit) || (readNumber last).isSome

/-- At most four numbers; the last one fills the bytes that the others leave. -/
def read? (name : List Char) : Option Nat := do
  let numbers ← (parts name).mapM readNumber
  let last ← numbers.getLast?
  let front := numbers.dropLast
  if 3 < front.length ∨ front.any (255 < ·) ∨ Nat.pow 256 (4 - front.length) ≤ last then none
  else some (front.zipIdx.foldl (fun sum (n, i) => sum + n * Nat.pow 256 (3 - i)) last)

def toText (address : Nat) : List Char :=
  joinWith ['.'] ([3, 2, 1, 0].map fun i => Nat.toDigits 10 (address / Nat.pow 256 i % 256))

end Ipv4

namespace Ipv6

def readByte (digits : List Char) : Option Nat :=
  match digits with
  | [] => none
  | '0' :: _ :: _ => none
  | digits => do
    let n ← if digits.all Char.isDigit then readBase 10 digits else none
    if n ≤ 255 then some n else none

/-- Two pieces written as an IPv4 address. -/
def readDotted (text : List Char) : Option (List Nat) :=
  match (splitOn '.' text).mapM readByte with
  | some [a, b, c, d] => some [a * 256 + b, c * 256 + d]
  | _ => none

def readPiece (digits : List Char) : Option Nat :=
  if digits.isEmpty ∨ 4 < digits.length then none else readBase 16 digits

/-- Reads the parts between colons, given the pieces so far and the place of the gap. The gap counts
as one piece. -/
def readParts (pieces : List Nat) (gap : Option Nat) (afterGap : Bool) :
    List (List Char) → Option (List Nat × Option Nat)
  | [] => some (pieces, gap)
  | [[]] => if afterGap then some (pieces, gap) else none
  | [] :: rest =>
    if 8 ≤ pieces.length ∨ gap.isSome then none
    else readParts (pieces ++ [0]) (some (pieces.length + 1)) true rest
  | [part] =>
    if 8 ≤ pieces.length then none
    else if part.contains '.' then
      if 6 < pieces.length then none else do pure (pieces ++ (← readDotted part), gap)
    else do pure (pieces ++ [← readPiece part], gap)
  | part :: rest =>
    if 8 ≤ pieces.length then none
    else do readParts (pieces ++ [← readPiece part]) gap false rest

/-- The eight pieces of an address; a gap stands for as many zeros as are missing. -/
def read? (text : List Char) : Option (List Nat) := do
  let (pieces, gap) ← match splitOn ':' text with
    | [] :: [] :: rest => readParts [0] (some 1) true rest
    | [] :: _ => none
    | parts => readParts [] none false parts
  match gap with
  | some place =>
    pure (pieces.take place ++ List.replicate (8 - pieces.length) 0 ++ pieces.drop place)
  | none => if pieces.length = 8 then some pieces else none

/-- The length of the run of zeros at the start. -/
def zeroRun (pieces : List Nat) : Nat := (pieces.takeWhile (· == 0)).length

/-- The place and length of the first longest run of at least two zeros. -/
def longestRun (pieces : List Nat) : Option (Nat × Nat) :=
  let runs := (List.range 8).map fun i => (i, zeroRun (pieces.drop i))
  let best := runs.foldl (fun best run => if best.2 < run.2 then run else best) (0, 0)
  if 2 ≤ best.2 then some best else none

def hexText (pieces : List Nat) : List Char := joinWith [':'] (pieces.map (Nat.toDigits 16))

def toText (pieces : List Nat) : List Char :=
  match longestRun pieces with
  | none => hexText pieces
  | some (place, length) =>
    hexText (pieces.take place) ++ [':', ':'] ++ hexText (pieces.drop (place + length))

end Ipv6

namespace Domain

/-- The ASCII characters that no domain contains. -/
def isForbidden (c : Char) : Bool :=
  c.toNat ≤ 0x20 || c == '\x7f' ||
    ['%', '#', '/', ':', '<', '>', '?', '@', '[', '\\', ']', '^', '|'].contains c

/-- The characters that a domain is written in. -/
def IsPlain (c : Char) : Prop := c.toNat < 128 ∧ c.toLower = c ∧ isForbidden c = false

instance (c : Char) : Decidable (IsPlain c) := inferInstanceAs (Decidable (_ ∧ _ ∧ _))

/-- How a label begins that stands for another one. -/
def encodedMark : List Char := ['x', 'n', '-', '-']

end Domain

/-- Domains in ASCII, as UTS 46 has them. What is mapped to what, and what is refused, is left to the tables of Unicode.
A form is its own form and is written in plain characters, and a name in plain characters is its own form unless a label
of it stands for another one. -/
class Idna where
  toAscii (name : List Char) : Option (List Char)
  toAscii_toAscii {name ascii : List Char} : toAscii name = some ascii → toAscii ascii = some ascii
  isPlain_of_toAscii {name ascii : List Char} : toAscii name = some ascii → ∀ c ∈ ascii, Domain.IsPlain c
  toAscii_of_isPlain {name : List Char} : (∀ c ∈ name, Domain.IsPlain c) →
    (∀ label ∈ splitOn '.' name, ¬ Domain.encodedMark <+: label) → toAscii name = some name

namespace Host
variable [Idna]

def toText : Host → List Char
  | domain name => name.toList
  | ipv4 address => Ipv4.toText address
  | ipv6 pieces => '[' :: (Ipv6.toText pieces ++ [']'])

def readBracketed (text : List Char) : Except ParseError Host :=
  if text.getLast? = some ']' then
    match Ipv6.read? text.dropLast with
    | some pieces => .ok (.ipv6 pieces)
    | none => .error .invalidIpv6
  else .error .invalidIpv6

/-- The host of a url with a special scheme. -/
def read (text : List Char) : Except ParseError Host :=
  match text with
  | '[' :: rest => readBracketed rest
  | text =>
    match (Utf8.decode? (percentDecode text)).bind Idna.toAscii with
    | none => .error .invalidDomain
    | some [] => .error .emptyHost
    | some name =>
      if Ipv4.endsInNumber name then
        match Ipv4.read? name with
        | some address => .ok (.ipv4 address)
        | none => .error .invalidIpv4
      else .ok (.domain (String.ofList name))

/-- The characters that no host contains. -/
def isForbidden (c : Char) : Bool :=
  ['\x00', '\t', '\n', '\r', ' ', '#', '/', ':', '<', '>', '?', '@', '[', '\\', ']', '^', '|'].contains c

/-- The host of a url with any other scheme is kept as it is written. -/
def readPlain (text : List Char) : Except ParseError Host :=
  match text with
  | '[' :: rest => readBracketed rest
  | text =>
    if text.any isForbidden then .error .invalidHostCharacter
    else .ok (.domain (String.ofList (percentEncode .controls text)))

end Host
end ProxyWatch.Url
