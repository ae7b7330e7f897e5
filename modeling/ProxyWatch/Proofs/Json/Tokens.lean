import ProxyWatch.Json.Printer
import ProxyWatch.Json.Source

/-! Strings and whole numbers are read as they were written. -/
namespace ProxyWatch.Json

namespace Source

/-- The piece that a character is written as. -/
def pieceOf (c : Char) : Piece :=
  if c < ' ' ∧ c ∉ ['\x08', '\x0c', '\n', '\r', '\t'] then .unit c.toNat else .char c

theorem toNat_lt_of_control {c : Char} (control : c < ' ') : c.toNat < 32 := by
  simpa [Char.lt_def, UInt32.lt_iff_toNat_lt] using control

private theorem hexUnit?_control (n : Nat) (control : n < 32) :
    hexUnit? '0' '0' (hexChar (n / 16)) (hexChar (n % 16)) = some n := by
  have all : ∀ n < 32, hexUnit? '0' '0' (hexChar (n / 16)) (hexChar (n % 16)) = some n := by decide
  exact all n control

/-- Puts a piece before the pieces that a text goes on with. -/
def putBefore (piece : Piece) (found : Option (List Piece × List Char)) :
    Option (List Piece × List Char) :=
  found.map fun (pieces, after) => (piece :: pieces, after)

private theorem readPieces_escaped {c shown : Char} (known : escaped? c = some shown) (rest : List Char) :
    readPieces ('\\' :: c :: rest) = putBefore (.char shown) (readPieces rest) := by
  have notUnit : c ≠ 'u' := by
    rintro rfl
    cases known
  rw [readPieces]
  · cases found : readPieces rest <;> simp [known, putBefore]
  · intro a b c d rest same
    cases same
    exact absurd rfl notUnit

private theorem readPieces_unit {a b c d : Char} {unit : Nat} (known : hexUnit? a b c d = some unit)
    (rest : List Char) :
    readPieces ('\\' :: 'u' :: a :: b :: c :: d :: rest) = putBefore (.unit unit) (readPieces rest) := by
  rw [readPieces]
  cases found : readPieces rest <;> simp [known, putBefore]

private theorem readPieces_plain {c : Char} (notQuote : c ≠ '"') (notEscape : c ≠ '\\')
    (notControl : ¬ c < ' ') (rest : List Char) :
    readPieces (c :: rest) = putBefore (.char c) (readPieces rest) := by
  rw [readPieces]
  · cases found : readPieces rest <;> simp [notEscape, notControl, putBefore]
  · exact notQuote
  all_goals
    intros
    exact notEscape ‹_›

private theorem pieceOf_named {c : Char} (named : c ∈ ['"', '\\', '\x08', '\x0c', '\n', '\r', '\t']) :
    pieceOf c = .char c := by
  simp only [List.mem_cons, List.not_mem_nil, or_false] at named
  rcases named with rfl | rfl | rfl | rfl | rfl | rfl | rfl <;> decide

private theorem readPieces_escape (c : Char) (rest : List Char) :
    readPieces (escape c ++ rest) = putBefore (pieceOf c) (readPieces rest) := by
  by_cases named : c ∈ ['"', '\\', '\x08', '\x0c', '\n', '\r', '\t']
  · rw [pieceOf_named named]
    simp only [List.mem_cons, List.not_mem_nil, or_false] at named
    rcases named with rfl | rfl | rfl | rfl | rfl | rfl | rfl <;> exact readPieces_escaped rfl rest
  · have others := named
    simp only [List.mem_cons, List.not_mem_nil, or_false, not_or] at others
    obtain ⟨notQuote, notEscape, notBack, notFeed, notLine, notReturn, notTab⟩ := others
    simp only [escape, if_neg notQuote, if_neg notEscape, if_neg notBack, if_neg notFeed,
      if_neg notLine, if_neg notReturn, if_neg notTab]
    split
    · rename_i control
      have unit : pieceOf c = .unit c.toNat := by
        simp [pieceOf, control, notBack, notFeed, notLine, notReturn, notTab]
      rw [unit]
      exact readPieces_unit (hexUnit?_control _ (toNat_lt_of_control control)) rest
    · rename_i plain
      have char : pieceOf c = .char c := by simp [pieceOf, plain]
      rw [char]
      exact readPieces_plain notQuote notEscape plain rest

private theorem readPieces_text (text rest : List Char) :
    readPieces (text.flatMap escape ++ '"' :: rest) = some (text.map pieceOf, rest) := by
  induction text with
  | nil => rw [List.flatMap_nil, List.nil_append, readPieces, List.map_nil]
  | cons c text ih =>
    rw [List.flatMap_cons, List.append_assoc, readPieces_escape, ih]
    rfl

theorem joinPieces_cons (c : Char) (rest : List Piece) :
    joinPieces (pieceOf c :: rest) = (joinPieces rest).map (c :: ·) := by
  unfold pieceOf
  split
  · rename_i control
    have low : c.toNat < 32 := toNat_lt_of_control control.1
    have noHigh : ¬ (0xD800 ≤ c.toNat ∧ c.toNat < 0xDC00) := by omega
    have noLow : ¬ (0xDC00 ≤ c.toNat ∧ c.toNat < 0xE000) := by omega
    have noHalf : ¬ (0xD800 ≤ c.toNat ∧ c.toNat < 0xE000) := by omega
    match rest with
    | [] => simp [joinPieces, noHalf]
    | .char _ :: rest =>
      simp only [joinPieces, if_neg noHalf]
      cases joinPieces rest <;> simp
    | .unit next :: rest =>
      rw [joinPieces, if_neg noHigh, if_neg noLow]
      cases joinPieces (.unit next :: rest) <;> simp
  · rw [joinPieces]
    cases joinPieces rest <;> rfl

private theorem joinPieces_text (text : List Char) : joinPieces (text.map pieceOf) = some text := by
  induction text with
  | nil => rfl
  | cons c text ih => rw [List.map_cons, joinPieces_cons, ih, Option.map_some]

theorem readString_text (text : String) (rest : List Char) :
    readString (text.toList.flatMap escape ++ '"' :: rest) = some (some text, rest) := by
  simp [readString, readPieces_text, joinPieces_text, String.ofList_toList]

end Source

namespace Literal

/-- What comes next does not go on with a number. -/
def Stops : List Char → Prop
  | [] => True
  | c :: _ => c.isDigit = false ∧ c ≠ '.' ∧ c ≠ 'e' ∧ c ≠ 'E'

variable {rest : List Char}

/-- What comes next is no digit. -/
def EndsDigits (rest : List Char) : Prop := ∀ c ∈ rest.head?, c.isDigit = false

theorem Stops.endsDigits (stops : Stops rest) : EndsDigits rest := by
  cases rest with
  | nil => exact nofun
  | cons c rest =>
    intro first member
    cases member
    exact stops.1

theorem readDigits_of_ends (ends : EndsDigits rest) : readDigits rest = ([], rest) := by
  cases rest with
  | nil => rfl
  | cons c rest =>
    have other : c.isDigit = false := ends c rfl
    simp [readDigits, digit?, other]

private theorem readFraction_of_stops (stops : Stops rest) : readFraction rest = some ([], rest) := by
  cases rest with
  | nil => rfl
  | cons c rest =>
    rw [readFraction]
    intro _ same
    cases same
    exact stops.2.1 rfl

theorem readExponent_of_stops (stops : Stops rest) : readExponent rest = some (none, rest) := by
  cases rest with
  | nil => rfl
  | cons c rest => simp [readExponent, stops.2.2]

/-- The digits of a number, as its text shows them. -/
def digitsOf (n : Nat) : List Nat := (Nat.toDigits 10 n).map fun c => c.toNat - '0'.toNat

theorem readDigits_append (digits : List Char) (all : ∀ c ∈ digits, c.isDigit = true)
    (ends : EndsDigits rest) :
    readDigits (digits ++ rest) = (digits.map fun c => c.toNat - '0'.toNat, rest) := by
  induction digits with
  | nil => exact readDigits_of_ends ends
  | cons c digits ih =>
    have first : c.isDigit = true := all c List.mem_cons_self
    simp [readDigits, digit?, first, ih fun other member => all other (List.mem_cons_of_mem _ member)]

private theorem readDigits_toDigits (n : Nat) (stops : Stops rest) :
    readDigits (Nat.toDigits 10 n ++ rest) = (digitsOf n, rest) :=
  readDigits_append _ (fun _ member => Nat.isDigit_of_mem_toDigits (by decide) (by decide) member)
    stops.endsDigits

theorem valueOf_digitsOf (n : Nat) : valueOf (digitsOf n) = n := by
  have whole : Nat.ofDigitChars 10 (Nat.toDigits 10 n) 0 = n := Nat.ofDigitChars_ten_toDigits
  rw [Nat.ofDigitChars_eq_foldl] at whole
  simpa only [valueOf, digitsOf, List.foldl_map, Nat.mul_comm _ 10] using whole

theorem digitsOf_of_lt {n : Nat} (small : n < 10) : digitsOf n = [n] := by
  rw [digitsOf, Nat.toDigits_of_lt_base small, List.map_singleton,
    Nat.toNat_digitChar_of_lt_ten small]
  exact congrArg (fun d => [d]) (Nat.add_sub_cancel_left 48 n)

theorem digitsOf_of_ge {n : Nat} (large : 10 ≤ n) : digitsOf n = digitsOf (n / 10) ++ [n % 10] := by
  have last : n % 10 < 10 := Nat.mod_lt n (by decide)
  rw [digitsOf, Nat.toDigits_eq_if (by decide), if_neg (Nat.not_lt.mpr large), List.map_append,
    List.map_singleton, Nat.toNat_digitChar_of_lt_ten last]
  exact congrArg (fun d => digitsOf (n / 10) ++ [d]) (Nat.add_sub_cancel_left 48 (n % 10))

/-- No number but zero is written with a zero in front. -/
theorem digitsOf_leading (n : Nat) :
    ∃ first others, digitsOf n = first :: others ∧ (first = 0 → n = 0 ∧ others = []) := by
  induction n using Nat.strongRecOn with
  | ind n ih =>
    rcases Nat.lt_or_ge n 10 with small | large
    · exact ⟨n, [], digitsOf_of_lt small, fun zero => ⟨zero, rfl⟩⟩
    · obtain ⟨first, others, same, leading⟩ := ih (n / 10) (by omega)
      refine ⟨first, others ++ [n % 10], by rw [digitsOf_of_ge large, same, List.cons_append], ?_⟩
      intro zero
      have none : n / 10 = 0 := (leading zero).1
      omega

/-- The literal that a whole number is written as. -/
def ofInt (n : Int) : Literal := ⟨decide (n < 0), digitsOf n.natAbs, [], none⟩

/-- A number is read part by part. -/
theorem read_parts (negative : Bool) {text behind after last : List Char} {first : Nat}
    {others fraction : List Nat} {exponent : Option Int}
    (digits : readDigits text = (first :: others, behind)) (leading : first = 0 → others = [])
    (fractionRead : readFraction behind = some (fraction, after))
    (exponentRead : readExponent after = some (exponent, last)) :
    read (if negative then '-' :: text else text) =
      some (⟨negative, first :: others, fraction, exponent⟩, last) := by
  have unsigned : ∀ after, text ≠ '-' :: after := by
    rintro after rfl
    cases digits
  match negative, first, others with
  | _, 0, _ :: _ => cases leading rfl
  | true, 0, [] => simp [read, digits, fractionRead, exponentRead]
  | true, first + 1, others => simp [read, digits, fractionRead, exponentRead]
  | false, 0, [] => simp [read, digits, fractionRead, exponentRead]
  | false, first + 1, others => simp [read, digits, fractionRead, exponentRead]

private theorem read_renderInteger (n : Int) (stops : Stops rest) :
    read (renderInteger n ++ rest) = some (ofInt n, rest) := by
  obtain ⟨first, others, same, leading⟩ := digitsOf_leading n.natAbs
  have digits := readDigits_toDigits n.natAbs stops
  rw [same] at digits
  have signed : renderInteger n ++ rest =
      if decide (n < 0) then '-' :: (Nat.toDigits 10 n.natAbs ++ rest)
      else Nat.toDigits 10 n.natAbs ++ rest := by
    unfold renderInteger
    split <;> simp_all
  rw [signed, read_parts _ digits (fun zero => (leading zero).2) (readFraction_of_stops stops)
    (readExponent_of_stops stops), ofInt, same]

/-- The number that the digits and the sign make. -/
def toInt (l : Literal) : Int := if l.negative then -valueOf l.whole else valueOf l.whole

/-- A number without fraction and exponent, from `-2 ^ 63` to `2 ^ 64 - 1`. -/
structure IsWhole (l : Literal) : Prop where
  fraction : l.fraction = []
  exponent : l.exponent = none
  least : -wholeLimit ≤ l.toInt
  most : l.toInt ≤ counterLimit

private theorem le_foldl (start : Nat) (digits : List Nat) :
    start ≤ digits.foldl (fun n d => n * 10 + d) start := by
  induction digits generalizing start with
  | nil => exact Nat.le_refl start
  | cons d digits ih => exact Nat.le_trans (by omega) (ih (start * 10 + d))

private theorem takeUp_of_le {start : Nat} {digits : List Nat}
    (fits : digits.foldl (fun n d => n * 10 + d) start ≤ counterLimit) :
    takeUp start digits = (digits.foldl (fun n d => n * 10 + d) start, 0) := by
  induction digits generalizing start with
  | nil => rfl
  | cons d digits ih =>
    rw [takeUp, if_pos (Nat.le_trans (le_foldl _ digits) fits), ih fits, List.foldl_cons]

/-- No digits but zeros, with a sign: a double, whose sign stays. -/
theorem value?_of_minusZero {digits : List Nat} (zero : valueOf digits = 0) :
    value? ⟨true, digits, [], none⟩ = some (.double (.zero true)) := by
  have taken : takeUp 0 digits = (0, 0) := by
    have fits : valueOf digits ≤ counterLimit := by simp [zero]
    rw [takeUp_of_le fits]
    exact congrArg (fun n => (n, 0)) zero
  have same : double? ⟨true, digits, [], none⟩ = double? ⟨true, [], [], none⟩ := by
    simp only [double?, taken, takeUp]
  have double : double? ⟨true, digits, [], none⟩ = some (.zero true) := by
    rw [same]
    decide +kernel
  simp [value?, zero, double]

end Literal

/-- A number that a text can write without fraction and exponent. -/
inductive Number.IsWhole : Number → Prop where
  | integer {n : Int} (least : -wholeLimit ≤ n) (most : n ≤ counterLimit) : IsWhole (.integer n)
  | minusZero : IsWhole (.double (.zero true))

namespace Literal

theorem value?_of_isWhole {l : Literal} (whole : l.IsWhole) :
    ∃ number, l.value? = some number ∧ number.IsWhole := by
  obtain ⟨negative, digits, fraction, exponent⟩ := l
  obtain ⟨rfl, rfl, least, most⟩ := whole
  match negative with
  | false =>
    have fits : valueOf digits ≤ counterLimit := by simpa [toInt] using most
    exact ⟨.integer (valueOf digits), by simp [value?, fits], .integer least most⟩
  | true =>
    rcases Nat.eq_zero_or_pos (valueOf digits) with zero | positive
    · exact ⟨.double (.zero true), value?_of_minusZero zero, .minusZero⟩
    · have fits : valueOf digits ≤ Nat.pow 2 63 :=
        Int.ofNat_le.mp (Int.neg_le_neg_iff.mp least)
      exact ⟨.integer (-valueOf digits), by simp [value?, positive, fits], .integer least most⟩

private theorem value?_ofInt {n : Int} (least : -wholeLimit ≤ n) (most : n ≤ counterLimit) :
    (ofInt n).value? = some (.integer n) := by
  have limit : wholeLimit = (Nat.pow 2 63 : Nat) := rfl
  rw [limit] at least
  rcases Int.lt_or_le n 0 with negative | positive
  · have size : 0 < n.natAbs ∧ n.natAbs ≤ Nat.pow 2 63 := by omega
    have same : -(n.natAbs : Int) = n := by omega
    have value : (ofInt n).value? = some (.integer (-(n.natAbs : Int))) := by
      simp [value?, ofInt, valueOf_digitsOf, negative, size]
    rw [value, same]
  · have size : n.natAbs ≤ counterLimit := by omega
    have same : (n.natAbs : Int) = n := by omega
    have value : (ofInt n).value? = some (.integer n.natAbs) := by
      simp [value?, ofInt, valueOf_digitsOf, Int.not_lt.mpr positive, size]
    rw [value, same]

private theorem read_minusZero {rest : List Char} (stops : Stops rest) :
    read ('-' :: '0' :: '.' :: '0' :: rest) = some (⟨true, [0], [0], none⟩, rest) := by
  have zero : digit? '0' = some 0 := rfl
  have point : digit? '.' = none := rfl
  simp [read, readDigits, zero, point, readFraction, readDigits_of_ends stops.endsDigits,
    readExponent_of_stops stops]

/-- A whole number is read as it was written. -/
theorem read_render {number : Number} (whole : number.IsWhole) {rest : List Char}
    (stops : Stops rest) :
    ∃ literal, read (number.render ++ rest) = some (literal, rest) ∧ literal.value? = some number := by
  cases whole with
  | integer least most => exact ⟨_, read_renderInteger _ stops, value?_ofInt least most⟩
  | minusZero =>
    have shown : Number.render (.double (.zero true)) = ['-', '0', '.', '0'] := rfl
    rw [shown]
    exact ⟨_, read_minusZero stops, by decide +kernel⟩

end Literal
end ProxyWatch.Json
