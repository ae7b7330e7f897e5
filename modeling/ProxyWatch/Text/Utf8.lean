/-! UTF-8: texts as bytes, and bytes as texts. -/
namespace ProxyWatch.Utf8

def encodeChar (c : Char) : List UInt8 :=
  let n := c.toNat
  if n < 0x80 then [n.toUInt8]
  else if n < 0x800 then [(0xC0 + n / 0x40).toUInt8, (0x80 + n % 0x40).toUInt8]
  else if n < 0x10000 then
    [(0xE0 + n / 0x1000).toUInt8, (0x80 + n / 0x40 % 0x40).toUInt8, (0x80 + n % 0x40).toUInt8]
  else
    [(0xF0 + n / 0x40000).toUInt8, (0x80 + n / 0x1000 % 0x40).toUInt8,
      (0x80 + n / 0x40 % 0x40).toUInt8, (0x80 + n % 0x40).toUInt8]

def encode (text : List Char) : List UInt8 := text.flatMap encodeChar

/-- A character that has begun: how many bytes are missing, the range of the next one, and the value
so far. -/
structure Pending where
  missing : Nat
  low : Nat
  high : Nat
  value : Nat

/-- What a byte begins: a whole character, a pending one, or nothing. -/
def lead (byte : Nat) : Option (Char ⊕ Pending) :=
  if byte < 0x80 then some (.inl (Char.ofNat byte))
  else if 0xC2 ≤ byte ∧ byte < 0xE0 then some (.inr ⟨1, 0x80, 0xBF, byte - 0xC0⟩)
  else if byte = 0xE0 then some (.inr ⟨2, 0xA0, 0xBF, 0⟩)
  else if byte = 0xED then some (.inr ⟨2, 0x80, 0x9F, 0xD⟩)
  else if 0xE0 < byte ∧ byte < 0xF0 then some (.inr ⟨2, 0x80, 0xBF, byte - 0xE0⟩)
  else if byte = 0xF0 then some (.inr ⟨3, 0x90, 0xBF, 0⟩)
  else if 0xF0 < byte ∧ byte < 0xF4 then some (.inr ⟨3, 0x80, 0xBF, byte - 0xF0⟩)
  else if byte = 0xF4 then some (.inr ⟨3, 0x80, 0x8F, 4⟩)
  else none

/-- The characters that bytes write. Each longest run of bytes that begins a character without
completing one, and each byte that begins none, stands as one gap. -/
def decodeFrom (pending : Option Pending) : List UInt8 → List (Option Char)
  | [] => if pending.isSome then [none] else []
  | byte :: rest =>
    let fresh : List (Option Char) × Option Pending := match lead byte.toNat with
      | none => ([none], none)
      | some (.inl c) => ([some c], none)
      | some (.inr p) => ([], some p)
    match pending with
    | none => fresh.1 ++ decodeFrom fresh.2 rest
    | some p =>
      if p.low ≤ byte.toNat ∧ byte.toNat ≤ p.high then
        let value := p.value * 0x40 + (byte.toNat - 0x80)
        if p.missing = 1 then some (Char.ofNat value) :: decodeFrom none rest
        else decodeFrom (some ⟨p.missing - 1, 0x80, 0xBF, value⟩) rest
      else none :: (fresh.1 ++ decodeFrom fresh.2 rest)

/-- Whether bytes can go on to write a text. -/
def isBeginning (pending : Option Pending) : List UInt8 → Bool
  | [] => true
  | byte :: rest =>
    match pending with
    | none =>
      match lead byte.toNat with
      | none => false
      | some (.inl _) => isBeginning none rest
      | some (.inr p) => isBeginning (some p) rest
    | some p =>
      p.low ≤ byte.toNat && byte.toNat ≤ p.high &&
        isBeginning (if p.missing = 1 then none
          else some ⟨p.missing - 1, 0x80, 0xBF, p.value * 0x40 + (byte.toNat - 0x80)⟩) rest

/-- The text that bytes write, if they write one. -/
def decode? (bytes : List UInt8) : Option (List Char) := (decodeFrom none bytes).mapM id

/-- The text that bytes write, with a replacement character for every gap. -/
def decodeLossy (bytes : List UInt8) : List Char :=
  (decodeFrom none bytes).map (·.getD '\uFFFD')

end ProxyWatch.Utf8
