import ProxyWatch.Proofs.Json.Tokens
import ProxyWatch.Proofs.Number.Shortest

/-! Every number is written as a number text, which is read to its end.

What it is read as is another matter: a whole number comes back as it was, and of a double the reader makes one of
its own. -/
namespace ProxyWatch.Json
open ProxyWatch.Number (Double)

namespace Literal

/-- A point and digits, or nothing. -/
inductive IsFraction : List Char → Prop where
  | none : IsFraction []
  | point {first : Char} {others : List Char} (all : ∀ c ∈ first :: others, c.isDigit = true) :
      IsFraction ('.' :: first :: others)

/-- An exponent with its sign, or nothing. -/
inductive IsExponent : List Char → Prop where
  | none : IsExponent []
  | signed {sign first : Char} {others : List Char} (known : sign = '+' ∨ sign = '-')
      (all : ∀ c ∈ first :: others, c.isDigit = true) : IsExponent ('e' :: sign :: first :: others)

/-- The text of a number without its sign. No zero stands in front of other digits. -/
inductive IsNumeral : List Char → Prop where
  | parts {first : Char} {others fraction exponent : List Char}
      (all : ∀ c ∈ first :: others, c.isDigit = true) (leading : first = '0' → others = [])
      (isFraction : IsFraction fraction) (isExponent : IsExponent exponent) :
      IsNumeral (first :: others ++ (fraction ++ exponent))

/-- What digits stand for, one by one. -/
def digitValues (digits : List Char) : List Nat := digits.map fun c => c.toNat - '0'.toNat

variable {text fraction exponent rest : List Char}

private theorem readFraction_of_ne (other : ∀ c ∈ rest.head?, c ≠ '.') : readFraction rest = some ([], rest) := by
  cases rest with
  | nil => rfl
  | cons c rest =>
    rw [readFraction]
    intro _ same
    cases same
    exact other '.' rfl rfl

theorem IsExponent.head (isExponent : IsExponent exponent) (stops : Stops rest) :
    ∀ c ∈ (exponent ++ rest).head?, c.isDigit = false ∧ c ≠ '.' := by
  intro c member
  cases isExponent with
  | none =>
    cases rest with
    | nil => cases member
    | cons first rest =>
      cases member
      exact ⟨stops.1, stops.2.1⟩
  | signed =>
    cases member
    exact ⟨rfl, by decide⟩

theorem IsFraction.endsDigits (isFraction : IsFraction fraction) (ends : EndsDigits rest) :
    EndsDigits (fraction ++ rest) := by
  cases isFraction with
  | none => exact ends
  | point =>
    intro c member
    cases member
    rfl

private theorem exists_readExponent (isExponent : IsExponent exponent) :
    ∃ size, ∀ rest, Stops rest → readExponent (exponent ++ rest) = some (size, rest) := by
  cases isExponent with
  | none => exact ⟨none, fun rest stops => readExponent_of_stops stops⟩
  | @signed sign first others known all =>
    have digits (rest : List Char) (stops : Stops rest) :
        readDigits (first :: (others ++ rest)) = (digitValues (first :: others), rest) :=
      readDigits_append (first :: others) all stops.endsDigits
    rcases known with rfl | rfl
    · refine ⟨some (valueOf (digitValues (first :: others))), fun rest stops => ?_⟩
      simp [readExponent, readExponentDigits, digits rest stops, digitValues]
    · refine ⟨some (-valueOf (digitValues (first :: others))), fun rest stops => ?_⟩
      simp [readExponent, readExponentDigits, digits rest stops, digitValues]

private theorem exists_readFraction (isFraction : IsFraction fraction) (isExponent : IsExponent exponent) :
    ∃ digits, ∀ rest, Stops rest →
      readFraction (fraction ++ (exponent ++ rest)) = some (digits, exponent ++ rest) := by
  cases isFraction with
  | none =>
    refine ⟨[], fun rest stops => readFraction_of_ne ?_⟩
    intro c member
    exact (isExponent.head stops c member).2
  | @point first others all =>
    refine ⟨digitValues (first :: others), fun rest stops => ?_⟩
    have ends : EndsDigits (exponent ++ rest) := fun c member => (isExponent.head stops c member).1
    rw [List.cons_append, readFraction, readDigits_append (first :: others) all ends]
    rfl

theorem digit_eq_zero {c : Char} (digit : c.isDigit = true) (zero : c.toNat - '0'.toNat = 0) : c = '0' := by
  have least : '0'.toNat ≤ c.toNat := by
    simp only [Char.isDigit, Bool.and_eq_true, decide_eq_true_eq] at digit
    exact UInt32.le_iff_toNat_le.mp digit.1
  exact Char.toNat_inj.mp (by omega)

private theorem exists_read (isNumeral : IsNumeral text) (negative : Bool) :
    ∃ literal, ∀ rest, Stops rest →
      read ((if negative then '-' :: text else text) ++ rest) = some (literal, rest) := by
  obtain @⟨first, others, fraction, exponent, all, leading, isFraction, isExponent⟩ := isNumeral
  obtain ⟨digits, fractionRead⟩ := exists_readFraction isFraction isExponent
  obtain ⟨size, exponentRead⟩ := exists_readExponent isExponent
  refine ⟨⟨negative, digitValues (first :: others), digits, size⟩, fun rest stops => ?_⟩
  have ends : EndsDigits (fraction ++ (exponent ++ rest)) :=
    isFraction.endsDigits fun c member => (isExponent.head stops c member).1
  have whole := readDigits_append (first :: others) all ends
  rw [List.map_cons] at whole
  have single : first.toNat - '0'.toNat = 0 → others.map (fun c => c.toNat - '0'.toNat) = [] := by
    intro zero
    rw [leading (digit_eq_zero (all first List.mem_cons_self) zero), List.map_nil]
  have read := read_parts negative whole single (fractionRead rest stops) (exponentRead rest stops)
  rw [digitValues, List.map_cons, ← read]
  cases negative with
  | true => simp
  | false => simp

theorem toDigits_leading (n : Nat) :
    ∃ first others, Nat.toDigits 10 n = first :: others ∧ (first = '0' → n = 0 ∧ others = []) := by
  obtain ⟨lead, later, same, leading⟩ := digitsOf_leading n
  obtain ⟨first, others, shown, value, values⟩ := List.map_eq_cons_iff.mp same
  refine ⟨first, others, shown, ?_⟩
  rintro rfl
  obtain ⟨zero, nothing⟩ := leading value.symm
  rw [nothing] at values
  exact ⟨zero, List.map_eq_nil_iff.mp values⟩

theorem isDigit_of_mem_toDigits {n : Nat} {c : Char} (member : c ∈ Nat.toDigits 10 n) : c.isDigit = true :=
  Nat.isDigit_of_mem_toDigits (by decide) (by decide) member

private theorem isNumeral_toDigits (n : Nat) : IsNumeral (Nat.toDigits 10 n) := by
  obtain ⟨first, others, shown, leading⟩ := toDigits_leading n
  have all : ∀ c ∈ first :: others, c.isDigit = true := fun c member => isDigit_of_mem_toDigits (shown ▸ member)
  have whole := IsNumeral.parts all (fun zero => (leading zero).2) .none .none
  rw [List.append_nil, List.append_nil] at whole
  rw [shown]
  exact whole

private theorem stripZeros_spec (reversed : List Char) (exponent : Int) :
    ∃ zeros, reversed.reverse = (Double.stripZeros reversed exponent).1 ++ List.replicate zeros '0' := by
  induction reversed generalizing exponent with
  | nil => exact ⟨0, rfl⟩
  | cons c rest ih =>
    by_cases zero : c = '0'
    · subst zero
      obtain ⟨zeros, shown⟩ := ih (exponent + 1)
      refine ⟨zeros + 1, ?_⟩
      rw [Double.stripZeros, List.reverse_cons, shown, List.append_assoc, List.replicate_succ']
    · refine ⟨0, ?_⟩
      rw [Double.stripZeros, List.replicate_zero, List.append_nil]
      · exact nofun
      · intro _ same
        cases same
        exact zero rfl

private theorem exists_stripped {n : Nat} (nonzero : n ≠ 0) (exponent : Int) :
    ∃ first others, (Double.stripZeros (Nat.toDigits 10 n).reverse exponent).1 = first :: others ∧
      first ≠ '0' ∧ ∀ c ∈ first :: others, c.isDigit = true := by
  obtain ⟨lead, later, shown, leading⟩ := toDigits_leading n
  obtain ⟨zeros, whole⟩ := stripZeros_spec (Nat.toDigits 10 n).reverse exponent
  rw [List.reverse_reverse] at whole
  have kept : lead ≠ '0' := fun zero => nonzero (leading zero).1
  cases stripped : (Double.stripZeros (Nat.toDigits 10 n).reverse exponent).1 with
  | nil =>
    rw [stripped, List.nil_append, shown] at whole
    have zero : lead = '0' := List.eq_of_mem_replicate (whole ▸ List.mem_cons_self)
    exact absurd zero kept
  | cons first others =>
    rw [stripped] at whole
    have same : lead = first := by
      rw [shown, List.cons_append] at whole
      exact (List.cons.inj whole).1
    refine ⟨first, others, rfl, same ▸ kept, ?_⟩
    intro c member
    exact isDigit_of_mem_toDigits (whole ▸ List.mem_append_left _ member)

theorem isDigit_of_mem_zeros {count : Nat} {c : Char} (member : c ∈ List.replicate count '0') : c.isDigit = true := by
  rw [List.eq_of_mem_replicate member]
  rfl

/-- Whole: zeros are put behind the digits, and a point with a zero. -/
theorem isNumeral_whole {first : Char} {others : List Char} (kept : first ≠ '0')
    (all : ∀ c ∈ first :: others, c.isDigit = true) (zeros : Nat) :
    IsNumeral (first :: others ++ List.replicate zeros '0' ++ ['.', '0']) := by
  have allWhole : ∀ c ∈ first :: (others ++ List.replicate zeros '0'), c.isDigit = true := by
    intro c member
    rw [← List.cons_append, List.mem_append] at member
    rcases member with digit | zero
    · exact all c digit
    · exact isDigit_of_mem_zeros zero
  have point : IsFraction ['.', '0'] := .point (List.forall_mem_singleton.mpr rfl)
  have whole := IsNumeral.parts allWhole (fun zero => absurd zero kept) point .none
  simpa using whole

/-- The point stands among the digits. -/
theorem isNumeral_within {first : Char} {others : List Char} (kept : first ≠ '0')
    (all : ∀ c ∈ first :: others, c.isDigit = true) {place : Nat} (positive : 0 < place)
    (within : place < (first :: others).length) :
    IsNumeral ((first :: others).take place ++ '.' :: (first :: others).drop place) := by
  obtain ⟨place, rfl⟩ : ∃ before, place = before + 1 := ⟨place - 1, by omega⟩
  have front : ∀ c ∈ first :: others.take place, c.isDigit = true := by
    intro c member
    rw [← List.take_succ_cons] at member
    exact all c (List.mem_of_mem_take member)
  cases behind : others.drop place with
  | nil =>
    rw [List.drop_eq_nil_iff] at behind
    rw [List.length_cons] at within
    omega
  | cons next rest =>
    have back : ∀ c ∈ next :: rest, c.isDigit = true := by
      intro c member
      rw [← behind] at member
      exact all c (List.mem_cons_of_mem _ (List.mem_of_mem_drop member))
    have whole := IsNumeral.parts front (fun zero => absurd zero kept) (.point back) .none
    rw [List.take_succ_cons, List.drop_succ_cons, behind]
    simpa using whole

/-- Below one: zeros stand between the point and the digits. -/
theorem isNumeral_below {first : Char} {others : List Char} (all : ∀ c ∈ first :: others, c.isDigit = true)
    (zeros : Nat) : IsNumeral ('0' :: '.' :: List.replicate zeros '0' ++ first :: others) := by
  have behind : ∀ c ∈ List.replicate zeros '0' ++ first :: others, c.isDigit = true := by
    intro c member
    rcases List.mem_append.mp member with zero | digit
    · exact isDigit_of_mem_zeros zero
    · exact all c digit
  have fraction : IsFraction ('.' :: (List.replicate zeros '0' ++ first :: others)) := by
    cases shown : List.replicate zeros '0' ++ first :: others with
    | nil => simp at shown
    | cons next rest =>
      rw [shown] at behind
      exact .point behind
  have zero : ∀ c ∈ ['0'], c.isDigit = true := List.forall_mem_singleton.mpr rfl
  have whole := IsNumeral.parts zero (fun _ => rfl) fraction .none
  simpa using whole

/-- With an exponent: the point stands behind the first digit, if there are others. -/
theorem isNumeral_scaled {first : Char} {others : List Char} (all : ∀ c ∈ first :: others, c.isDigit = true)
    {sign : Char} (known : sign = '+' ∨ sign = '-') (power : Nat) {lead : List Char}
    (placed : lead = match first :: others with | [] => [] | [d] => [d] | d :: rest => d :: '.' :: rest) :
    IsNumeral (lead ++ 'e' :: sign :: Nat.toDigits 10 power) := by
  have exponent : IsExponent ('e' :: sign :: Nat.toDigits 10 power) := by
    obtain ⟨lead, later, shown, -⟩ := toDigits_leading power
    rw [shown]
    exact .signed known fun c member => isDigit_of_mem_toDigits (shown ▸ member)
  have single : ∀ c ∈ [first], c.isDigit = true := by
    intro c member
    exact all c (List.mem_singleton.mp member ▸ List.mem_cons_self)
  cases others with
  | nil =>
    have whole := IsNumeral.parts single (fun _ => rfl) .none exponent
    simpa [placed] using whole
  | cons next rest =>
    have fraction : IsFraction ('.' :: next :: rest) :=
      .point fun c member => all c (List.mem_cons_of_mem _ member)
    have whole := IsNumeral.parts single (fun _ => rfl) fraction exponent
    simpa [placed] using whole

private theorem exists_numeral_toText (x : Double) :
    ∃ text, IsNumeral text ∧ x.toText.toList = if x.negative then '-' :: text else text := by
  have signed {body : List Char} (written : IsNumeral body) : ∃ text, IsNumeral text ∧
      ((if x.negative then "-" else "") ++ String.ofList body).toList = if x.negative then '-' :: text else text := by
    refine ⟨body, written, ?_⟩
    cases x.negative <;> simp
  by_cases zero : x.isZero = true
  · have shown : x.toText = (if x.negative then "-" else "") ++ String.ofList ['0', '.', '0'] := by
      simp only [Double.toText, zero, if_true]
    have point : IsFraction ['.', '0'] := .point (List.forall_mem_singleton.mpr rfl)
    have digit : ∀ c ∈ ['0'], c.isDigit = true := List.forall_mem_singleton.mpr rfl
    rw [shown]
    exact signed (.parts digit (fun _ => rfl) point .none)
  · have some : x.significand ≠ 0 := by
      intro none
      exact zero (by simp [Double.isZero, none])
    obtain ⟨first, others, stripped, kept, all⟩ := exists_stripped (Double.digits_shortest some) x.shortest.exponent
    cases found : Double.stripZeros (Nat.toDigits 10 x.shortest.digits).reverse x.shortest.exponent with
    | mk digits exponent =>
      rw [found] at stripped
      subst stripped
      simp only [Double.toText, found, zero]
      apply signed
      split
      · exact isNumeral_whole kept all exponent.toNat
      split
      · rename_i within
        exact isNumeral_within kept all (by omega) (by omega)
      split
      · exact isNumeral_below all _
      · refine isNumeral_scaled all ?_ _ rfl
        split
        · exact .inr rfl
        · exact .inl rfl

theorem exists_numeral (number : Number) :
    ∃ (negative : Bool) (text : List Char), IsNumeral text ∧
      number.render = if negative then '-' :: text else text := by
  cases number with
  | integer n =>
    refine ⟨decide (n < 0), Nat.toDigits 10 n.natAbs, isNumeral_toDigits _, ?_⟩
    simp [Number.render, renderInteger]
  | double x =>
    obtain ⟨text, written, shown⟩ := exists_numeral_toText x
    exact ⟨x.negative, text, written, shown⟩

private theorem exists_read_render (number : Number) :
    ∃ literal, ∀ rest, Stops rest → read (number.render ++ rest) = some (literal, rest) := by
  obtain ⟨negative, text, written, shown⟩ := exists_numeral number
  rw [shown]
  exact exists_read written negative

theorem render_head (number : Number) :
    ∃ c text, number.render = c :: text ∧ Source.startsNumber c = true := by
  obtain ⟨negative, text, written, shown⟩ := exists_numeral number
  cases negative with
  | true => exact ⟨'-', text, shown, rfl⟩
  | false =>
    obtain @⟨first, others, fraction, exponent, all, -, -, -⟩ := written
    have digit : first.isDigit = true := all first List.mem_cons_self
    exact ⟨first, others ++ (fraction ++ exponent), shown, by simp [Source.startsNumber, digit]⟩

end Literal

/-- The number that the text of a number stands for. -/
def Number.reread (number : Number) : Option Number :=
  (Literal.read number.render).bind fun (literal, _) => literal.value?

namespace Literal

theorem read_reread (number : Number) :
    ∃ literal, literal.value? = number.reread ∧
      ∀ rest, Stops rest → read (number.render ++ rest) = some (literal, rest) := by
  obtain ⟨literal, read⟩ := exists_read_render number
  have alone := read [] trivial
  rw [List.append_nil] at alone
  exact ⟨literal, by simp [Number.reread, alone], read⟩

end Literal

theorem Number.reread_of_isWhole {number : Number} (whole : number.IsWhole) : number.reread = some number := by
  have stops : Literal.Stops [] := trivial
  obtain ⟨literal, read, value⟩ := Literal.read_render whole stops
  rw [List.append_nil] at read
  simp [reread, read, value]

end ProxyWatch.Json
