import Mathlib
import ProxyWatch.Proofs.Json.Numerals
import ProxyWatch.Proofs.Number.Rounding
import ProxyWatch.Text.Quantity

/-! Byte counts as they are shown: which unit they are in, and which numbers are shown in it.

The unit is chosen by the count before it is rounded. So it is the largest unit that the count reaches, but a count
that falls short of the next unit by less than half a hundredth is shown as 1024.00 of the smaller one. -/
namespace ProxyWatch.Quantity
open Number
open Json (Literal)
open Json.Literal (digitsOf readDigits readFraction readExponent valueOf)
variable {count den num : Nat} {unit : String}

/-- A text is a number with two decimals, a blank and a unit. The amount is in hundredths. -/
def Shows (text : String) (amount : Nat) (unit : String) : Prop :=
  ∃ whole decimals : List Nat, Literal.read text.toList = some (⟨false, whole, decimals, none⟩, ' ' :: unit.toList) ∧
    decimals.length = 2 ∧ valueOf (whole ++ decimals) = amount

theorem Shows.unique {text other : String} {amount more : Nat} (shown : Shows text amount unit)
    (again : Shows text more other) : amount = more ∧ unit = other := by
  obtain ⟨whole, decimals, read, -, amount_eq⟩ := shown
  obtain ⟨others, last, reread, -, more_eq⟩ := again
  obtain ⟨literals, rests⟩ := Prod.mk.inj (Option.some.inj (read.symm.trans reread))
  obtain ⟨-, rfl, rfl, -⟩ := Literal.mk.inj literals
  exact ⟨amount_eq.symm.trans more_eq, String.toList_inj.mp (List.cons.inj rests).2⟩

private theorem values_paddedDigits {n : Nat} (small : n < 100) :
    (paddedDigits 2 n).map (fun c => c.toNat - '0'.toNat) = [n / 10, n % 10] := by
  have zero : '0'.toNat - '0'.toNat = 0 := rfl
  have width : (Nat.toDigits 10 n).length = (digitsOf n).length := (List.length_map _).symm
  have last : n % 10 < 10 := Nat.mod_lt n (by decide)
  rw [paddedDigits, List.map_append, List.map_replicate, zero, width, ← digitsOf]
  rcases Nat.lt_or_ge n 10 with short | long
  · rw [Literal.digitsOf_of_lt short, Nat.div_eq_of_lt short, Nat.mod_eq_of_lt short]
    rfl
  · rw [Literal.digitsOf_of_ge long, Literal.digitsOf_of_lt (Nat.div_lt_of_lt_mul small)]
    rfl

private theorem isDigit_of_mem_paddedDigits {width n : Nat} {c : Char} (member : c ∈ paddedDigits width n) :
    c.isDigit = true := by
  rcases List.mem_append.mp member with zero | digit
  · exact Literal.isDigit_of_mem_zeros zero
  · exact Literal.isDigit_of_mem_toDigits digit

private theorem shows_hundredths (num den : Nat) (unit : String) :
    Shows (hundredths num den ++ " " ++ unit) (roundHalfEven (num * 100) den) unit := by
  generalize amount_eq : roundHalfEven (num * 100) den = amount
  obtain ⟨first, others, whole, leading⟩ := Literal.digitsOf_leading (amount / 100)
  have ends : Literal.EndsDigits (' ' :: unit.toList) := by
    intro c member
    cases member
    rfl
  have point : Literal.EndsDigits ('.' :: (paddedDigits 2 (amount % 100) ++ ' ' :: unit.toList)) := by
    intro c member
    cases member
    rfl
  have decimals : readDigits (paddedDigits 2 (amount % 100) ++ ' ' :: unit.toList) =
      ([amount % 100 / 10, amount % 100 % 10], ' ' :: unit.toList) := by
    rw [Literal.readDigits_append _ (fun _ member => isDigit_of_mem_paddedDigits member) ends,
      values_paddedDigits (Nat.mod_lt amount (by decide))]
  have digits := Literal.readDigits_append (Nat.toDigits 10 (amount / 100))
    (fun _ member => Literal.isDigit_of_mem_toDigits member) point
  rw [← digitsOf, whole] at digits
  have fraction : readFraction ('.' :: (paddedDigits 2 (amount % 100) ++ ' ' :: unit.toList)) =
      some ([amount % 100 / 10, amount % 100 % 10], ' ' :: unit.toList) := by
    rw [readFraction, decimals]
  have exponent : readExponent (' ' :: unit.toList) = some (none, ' ' :: unit.toList) := by
    simp [readExponent]
  have text : (hundredths num den ++ " " ++ unit).toList =
      Nat.toDigits 10 (amount / 100) ++ '.' :: (paddedDigits 2 (amount % 100) ++ ' ' :: unit.toList) := by
    simp [hundredths, amount_eq]
  have read := Literal.read_parts false digits (fun zero => (leading zero).2) fraction exponent
  refine ⟨first :: others, [amount % 100 / 10, amount % 100 % 10], ?_, rfl, ?_⟩
  · rw [text]
    exact read
  · have kept : valueOf (first :: others) = amount / 100 := by
      rw [← whole, Literal.valueOf_digitsOf]
    rw [valueOf] at kept ⊢
    rw [List.foldl_append, kept, List.foldl_cons, List.foldl_cons, List.foldl_nil]
    omega

private theorem scaleTo_spec (num den : Nat) (unit : String) (larger : List String) :
    ∃ step found, scaleTo num den unit larger = (1024 ^ step * den, found) ∧
      (unit :: larger)[step]? = some found ∧ (0 < step → 1024 ^ step * den ≤ num) ∧
      (step < larger.length → num < 1024 ^ (step + 1) * den) := by
  induction larger generalizing den unit with
  | nil => exact ⟨0, unit, by simp [scaleTo], rfl, nofun, nofun⟩
  | cons next rest ih =>
    rw [scaleTo]
    by_cases reached : 1024 * den ≤ num
    · obtain ⟨step, found, scaled, listed, least, most⟩ := ih (1024 * den) next
      have regroup (k : Nat) : 1024 ^ k * (1024 * den) = 1024 ^ (k + 1) * den := by
        rw [Nat.pow_succ, Nat.mul_assoc]
      rw [regroup] at scaled least most
      refine ⟨step + 1, found, by rw [if_pos reached, scaled], listed, ?_, ?_⟩
      · intro _
        rcases Nat.eq_zero_or_pos step with none | some
        · simpa [none] using reached
        · exact least some
      · intro short
        exact most (Nat.lt_of_succ_lt_succ short)
    · refine ⟨0, unit, by rw [if_neg reached, Nat.pow_zero, Nat.one_mul], rfl, nofun, ?_⟩
      intro _
      rw [Nat.zero_add, Nat.pow_one]
      exact Nat.not_le.mp reached

private theorem bytes_of_scaleTo {value : Double} (large : 1024 ≤ count) (read : Double.ofNat? count = some value)
    (scaled : scaleTo value.magnitude.1 value.magnitude.2 "B" units = (den, unit)) :
    bytes count = hundredths value.magnitude.1 den ++ " " ++ unit := by
  rw [bytes, if_neg (Nat.not_lt.mpr large), read]
  simp only [scaled]
  rfl

private theorem exists_unit {value : Double} (large : 1024 ≤ count) (stands : value.StandsFor count) :
    ∃ step found, scaleTo value.magnitude.1 value.magnitude.2 "B" units =
        (1024 ^ (step + 1) * value.magnitude.2, found) ∧ units[step]? = some found ∧ step < 5 ∧
      1024 ^ (step + 1) ≤ count ∧ (step < 4 → count < 1024 ^ (step + 2)) := by
  obtain ⟨steps, found, scaled, listed, least, most⟩ :=
    scaleTo_spec value.magnitude.1 value.magnitude.2 "B" units
  have reaches (power : Nat) (few : power ≤ 5) :
      1024 ^ power * value.magnitude.2 ≤ value.magnitude.1 ↔ 1024 ^ power ≤ count :=
    stands.mul_le_iff ((Nat.pow_le_pow_right (by decide) few).trans (by decide))
  cases steps with
  | zero =>
    have above := (reaches 1 (by decide)).mpr (by omega)
    exact absurd above (Nat.not_le.mpr (most (by decide)))
  | succ step =>
    have few : step < 5 := (List.getElem?_eq_some_iff.mp listed).1 |> Nat.lt_of_succ_lt_succ
    refine ⟨step, found, scaled, listed, few, (reaches _ few).mp (least (Nat.succ_pos step)), ?_⟩
    intro short
    have beyond := most (Nat.succ_lt_succ short)
    exact Nat.not_le.mp fun reached => Nat.not_le.mpr beyond ((reaches _ (by omega)).mpr reached)

/-- Where nothing is rounded but the hundredths, 1024.00 is the greatest amount below the next unit, and it takes half a
hundredth less to come to it. -/
theorem amount_below {power amount : Nat} (positive : 0 < den) (some : 0 < power) (below : count < 1024 * power)
    (nearest : IsNearest amount (count * den * 100) (power * den)) :
    amount ≤ 102400 ∧ (amount < 102400 ↔ 200 * count < 204799 * power) := by
  have whole : 0 < power * den := Nat.mul_pos some positive
  constructor
  · refine nearest.le_of_le_mul whole ?_
    calc count * den * 100 ≤ 1024 * power * den * 100 :=
          Nat.mul_le_mul_right 100 (Nat.mul_le_mul_right den below.le)
      _ = 102400 * (power * den) := by ring
  · have close := nearest.even_le_iff (n := 102400) whole rfl
    have here : 2 * (count * den * 100) = 200 * count * den := by ring
    have half : 2 * 102400 * (power * den) = 204799 * power * den + power * den := by ring
    rw [here, half, Nat.add_le_add_iff_right, Nat.mul_le_mul_right_iff positive] at close
    rw [← Nat.not_le, close, Nat.not_le]

/-- A count that is not shown in bytes is shown in the largest unit that it reaches, as the nearest hundredth: never as
less than 1.00 of it, and as less than 1024.00 of it, unless it is the largest unit of all or the count falls short of
the next unit by half a hundredth at most. It is shown as 1024.00 then. -/
theorem bytes_in_unit (large : 1024 ≤ count) (small : count < 2 ^ 64) :
    ∃ step unit amount, units[step]? = some unit ∧ Shows (bytes count) amount unit ∧
      (1024 ^ (step + 1) ≤ count ∧ (unit ≠ "PiB" → count < 1024 ^ (step + 2))) ∧
      (∃ value, Double.ofNat? count = some value ∧ value.StandsFor count ∧
        IsNearest amount (value.magnitude.1 * 100) (1024 ^ (step + 1) * value.magnitude.2)) ∧
      100 ≤ amount ∧
      (unit ≠ "PiB" → amount ≤ 102400 ∧ (amount < 102400 ↔ 200 * count < 204799 * 1024 ^ (step + 1))) := by
  obtain ⟨value, read, stands⟩ := Double.exists_ofNat? (by omega) small
  obtain ⟨step, unit, scaled, listed, few, least, most⟩ := exists_unit large stands
  have notLast : unit ≠ "PiB" → step < 4 := by
    intro other
    by_contra last
    obtain rfl : step = 4 := by omega
    cases listed
    exact other rfl
  have positive : 0 < 1024 ^ (step + 1) * value.magnitude.2 := Nat.mul_pos (Nat.pow_pos (by decide)) stands.den_pos
  have nearest := isNearest_roundHalfEven (value.magnitude.1 * 100) positive
  have reached : 1024 ^ (step + 1) * value.magnitude.2 ≤ value.magnitude.1 := by
    have fits : 1024 ^ (step + 1) ≤ 2 ^ 52 := (Nat.pow_le_pow_right (by decide) few).trans (by decide)
    exact (stands.mul_le_iff fits).mpr least
  have shown := shows_hundredths value.magnitude.1 (1024 ^ (step + 1) * value.magnitude.2) unit
  rw [← bytes_of_scaleTo large read scaled] at shown
  refine ⟨step, unit, _, listed, shown, ⟨least, fun other => most (notLast other)⟩, ⟨value, read, stands, nearest⟩,
    nearest.le_of_mul_le positive (by omega), ?_⟩
  intro other
  have below := most (notLast other)
  have exact : value.magnitude.1 = count * value.magnitude.2 := by
    have short := notLast other
    have power : 1024 ^ (step + 2) ≤ 1024 ^ 5 := Nat.pow_le_pow_right (by decide) (by omega)
    exact stands.exact (by omega)
  rw [exact] at nearest ⊢
  rw [Nat.pow_succ, Nat.mul_comm] at below
  exact amount_below stands.den_pos (Nat.pow_pos (by decide)) below nearest

/-- The last count that is shown as less than 1024.00 tebibytes. -/
theorem bytes_in_unit_below : (1024 ≤ 2 ^ 50 - 5497558139 ∧ 2 ^ 50 - 5497558139 < 2 ^ 64) ∧
    bytes (2 ^ 50 - 5497558139) = "1023.99 TiB" ∧
    ∃ amount, Shows (bytes (2 ^ 50 - 5497558139)) amount "TiB" ∧ 100 ≤ amount ∧ amount < 102400 := by
  have large : 1024 ≤ 2 ^ 50 - 5497558139 := by decide
  have small : 2 ^ 50 - 5497558139 < 2 ^ 64 := by decide
  obtain ⟨step, unit, amount, listed, shown, ⟨least, most⟩, -, some, kept⟩ := bytes_in_unit large small
  have few : step < 5 := (List.getElem?_eq_some_iff.mp listed).1
  have atMost : step < 4 := by
    by_contra last
    obtain rfl : step = 4 := by omega
    exact absurd least (by norm_num)
  have atLeast : 2 < step := by
    by_contra lower
    interval_cases step
    all_goals
      cases listed
      exact absurd (most (by decide)) (by norm_num)
  obtain rfl : step = 3 := by omega
  cases listed
  exact ⟨⟨large, small⟩, by decide +kernel, amount, shown, some, (kept (by decide)).2.mpr (by decide)⟩

/-- The last count below a mebibyte is shown as more kibibytes than make less than one. -/
theorem unit_before_rounding : bytes 1048575 = "1024.00 KiB" ∧
    ∀ amount unit, Shows (bytes 1048575) amount unit → unit = "KiB" ∧ amount = 102400 := by
  have shown : bytes 1048575 = "1024.00 KiB" := by decide +kernel
  have reading : Shows "1024.00 KiB" 102400 "KiB" := ⟨[1, 0, 2, 4], [0, 0], by decide +kernel, rfl, rfl⟩
  refine ⟨shown, fun amount unit other => ?_⟩
  rw [shown] at other
  obtain ⟨same, unit_eq⟩ := other.unique reading
  exact ⟨unit_eq, same⟩

end ProxyWatch.Quantity
