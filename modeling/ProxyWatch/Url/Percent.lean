import ProxyWatch.Text.Utf8

/-! Percent-encoding: the bytes of characters outside a set are written as two hexadecimal digits. -/
namespace ProxyWatch.Url

/-- The sets of ASCII characters that are encoded, each in its part of a url. All control characters
and all characters beyond ASCII are encoded everywhere. -/
structure EncodeSet where
  members : List Char

namespace EncodeSet

def controls : EncodeSet := ⟨[]⟩

def fragment : EncodeSet := ⟨[' ', '"', '<', '>', '\x60']⟩

def query : EncodeSet := ⟨[' ', '"', '#', '<', '>']⟩

def specialQuery : EncodeSet := ⟨'\'' :: query.members⟩

def path : EncodeSet := ⟨fragment.members ++ ['#', '?', '\x7b', '\x7d']⟩

def userinfo : EncodeSet :=
  ⟨path.members ++ ['/', ':', ';', '=', '@', '[', '\\', ']', '^', '|']⟩

def pathSegment : EncodeSet := ⟨path.members ++ ['/', '%']⟩

def specialPathSegment : EncodeSet := ⟨pathSegment.members ++ ['\\']⟩

end EncodeSet

def hexUpper (n : Nat) : Char := if n < 10 then Char.ofNat (48 + n) else Char.ofNat (55 + n)

def percentByte (byte : UInt8) : List Char :=
  ['%', hexUpper (byte.toNat / 16), hexUpper (byte.toNat % 16)]

def percentChar (c : Char) : List Char := (Utf8.encodeChar c).flatMap percentByte

def encodeChar (set : EncodeSet) (c : Char) : List Char :=
  if c.toNat < 0x20 || 0x7F ≤ c.toNat || set.members.contains c then percentChar c else [c]

def percentEncode (set : EncodeSet) (text : List Char) : List Char := text.flatMap (encodeChar set)

def hexValue? (c : Char) : Option Nat :=
  if c.isDigit then some (c.toNat - 48)
  else if 'a' ≤ c ∧ c ≤ 'f' then some (c.toNat - 87)
  else if 'A' ≤ c ∧ c ≤ 'F' then some (c.toNat - 55)
  else none

/-- The bytes of a text in which each percent sign with two hexadecimal digits stands for one byte. -/
def percentDecode : List Char → List UInt8
  | [] => []
  | c :: rest =>
    match c, rest with
    | '%', high :: low :: more =>
      match hexValue? high, hexValue? low with
      | some h, some l => (h * 16 + l).toUInt8 :: percentDecode more
      | _, _ => Utf8.encodeChar '%' ++ percentDecode (high :: low :: more)
    | c, rest => Utf8.encodeChar c ++ percentDecode rest

/-- Form encoding: letters, digits and four marks stand for themselves, a blank is a plus sign. -/
def formEncode (text : List Char) : List Char :=
  text.flatMap fun c =>
    if c.isAlphanum || c == '*' || c == '-' || c == '.' || c == '_' then [c]
    else if c = ' ' then ['+']
    else percentChar c

end ProxyWatch.Url
