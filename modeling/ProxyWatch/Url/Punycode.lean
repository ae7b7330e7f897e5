/-! Punycode: labels beyond ASCII written in ASCII. The code points beyond ASCII are written in
ascending order as differences, in digits whose thresholds adapt to the differences before. -/
namespace ProxyWatch.Url.Punycode

def digitChar (d : Nat) : Char := if d < 26 then Char.ofNat (97 + d) else Char.ofNat (22 + d)

def digitValue? (c : Char) : Option Nat :=
  if 'a' ≤ c ∧ c ≤ 'z' then some (c.toNat - 97)
  else if 'A' ≤ c ∧ c ≤ 'Z' then some (c.toNat - 65)
  else if c.isDigit then some (c.toNat - 22)
  else none

def threshold (position bias : Nat) : Nat :=
  if position ≤ bias then 1 else if bias + 26 ≤ position then 26 else position - bias

def adaptLoop (delta position : Nat) : Nat :=
  if 455 < delta then adaptLoop (delta / 35) (position + 36)
  else position + 36 * delta / (delta + 38)
termination_by delta
decreasing_by omega

/-- The bias for the next difference. -/
def adapt (delta count : Nat) (first : Bool) : Nat :=
  let delta := if first then delta / 700 else delta / 2
  adaptLoop (delta + delta / count) 0

theorem threshold_range (position bias : Nat) :
    1 ≤ threshold position bias ∧ threshold position bias ≤ 26 := by
  unfold threshold
  split
  · omega
  · split <;> omega

def encodeNumber (q position bias : Nat) : List Char :=
  let t := threshold position bias
  if q < t then [digitChar q]
  else digitChar (t + (q - t) % (36 - t)) :: encodeNumber ((q - t) / (36 - t)) (position + 36) bias
termination_by q
decreasing_by
  have range := threshold_range position bias
  rename_i large
  have : (q - threshold position bias) / (36 - threshold position bias) ≤
      q - threshold position bias := Nat.div_le_self _ _
  omega

structure Encoder where
  next : Nat := 128
  delta : Nat := 0
  bias : Nat := 72
  handled : Nat
  first : Bool := true

/-- One pass over the text for a code point: each smaller one lengthens the difference, each equal one
is written. -/
def pass (point : Nat) : Encoder → List Nat → Encoder × List Char
  | e, [] => (e, [])
  | e, n :: rest =>
    if n < point then pass point { e with delta := e.delta + 1 } rest
    else if n = point then
      let digits := encodeNumber e.delta 36 e.bias
      let (last, later) := pass point
        { e with
          bias := adapt e.delta (e.handled + 1) e.first
          delta := 0
          handled := e.handled + 1
          first := false } rest
      (last, digits ++ later)
    else pass point e rest

def encodePoints (points : List Nat) : Encoder → List Nat → List Char
  | _, [] => []
  | e, point :: rest =>
    let delta := e.delta + (point - e.next) * (e.handled + 1)
    let (e, digits) := pass point { e with delta } points
    digits ++ encodePoints points { e with delta := e.delta + 1, next := point + 1 } rest

/-- The ASCII form of a label, without the mark in front. -/
def encode (label : List Char) : List Char :=
  let basic := label.filter (·.toNat < 128)
  let points := label.map Char.toNat
  let distinct := ((points.filter (128 ≤ ·)).mergeSort (· ≤ ·)).eraseDups
  basic ++ (if basic.isEmpty then [] else ['-']) ++
    encodePoints points { handled := basic.length } distinct

/-- Reads one number; answers it with the rest. -/
def decodeNumber (bias : Nat) (position weight total : Nat) :
    List Char → Option (Nat × List Char)
  | [] => none
  | c :: rest =>
    match digitValue? c with
    | none => none
    | some d =>
      let t := threshold position bias
      let total := total + d * weight
      if d < t then some (total, rest)
      else decodeNumber bias (position + 36) (weight * (36 - t)) total rest

def decodeLoop (fuel next index bias : Nat) (first : Bool) (output : List Nat) (text : List Char) :
    Option (List Nat) :=
  match fuel, text with
  | _, [] => some output
  | 0, _ => none
  | fuel + 1, text =>
    match decodeNumber bias 36 1 index text with
    | none => none
    | some (total, rest) =>
      let count := output.length + 1
      let point := next + total / count
      let place := total % count
      if 0x110000 ≤ point ∨ (0xD800 ≤ point ∧ point < 0xE000) then none
      else decodeLoop fuel point (place + 1) (adapt (total - index) count first) false
        (output.insertIdx place point) rest

/-- The label that an ASCII form writes. -/
def decode? (text : List Char) : Option (List Char) :=
  let cut := text.reverse.dropWhile (· ≠ '-')
  let basic := (cut.drop 1).reverse
  let extended := text.drop (if cut.isEmpty then 0 else cut.length)
  if basic.any (128 ≤ ·.toNat) then none
  else (decodeLoop extended.length 128 0 72 true (basic.map Char.toNat) extended).map
    fun points => points.map Char.ofNat

end ProxyWatch.Url.Punycode
