import Mathlib
import ProxyWatch.Number.Double

/-! Rounding to the nearest whole number, and the doubles that stand for whole numbers.

A whole number below `2 ^ 53` is a double itself. One that is larger is rounded to 53 bits, which takes none across a
power of two. -/
namespace ProxyWatch.Number
variable {whole num den n : Nat}

/-- The whole number nearest to `num / den`; of two that are equally near, the even one. -/
structure IsNearest (whole num den : Nat) : Prop where
  least : 2 * num ≤ (2 * whole + 1) * den
  most : 2 * whole * den ≤ 2 * num + den
  tie : 2 * num = (2 * whole + 1) * den ∨ 2 * whole * den = 2 * num + den → whole % 2 = 0

theorem isNearest_roundHalfEven (num : Nat) (positive : 0 < den) : IsNearest (roundHalfEven num den) num den := by
  have parts : den * (num / den) + num % den = num := Nat.div_add_mod num den
  have below : num % den < den := Nat.mod_lt num positive
  have here : 2 * (num / den) * den = 2 * (den * (num / den)) := by ring
  have next : 2 * (num / den + 1) * den = 2 * (den * (num / den)) + 2 * den := by ring
  have half : (2 * (num / den) + 1) * den = 2 * (den * (num / den)) + den := by ring
  have beyond : (2 * (num / den + 1) + 1) * den = 2 * (den * (num / den)) + 3 * den := by ring
  simp only [roundHalfEven]
  split
  · constructor <;> omega
  split
  · constructor <;> omega
  split
  · constructor <;> omega
  · constructor <;> omega

namespace IsNearest

theorem le_of_mul_le (nearest : IsNearest whole num den) (positive : 0 < den) (reached : n * den ≤ num) :
    n ≤ whole := by
  have least := nearest.least
  by_contra short
  have more : (whole + 1) * den ≤ n * den := Nat.mul_le_mul_right den (by omega)
  rw [Nat.add_mul, Nat.mul_assoc] at least
  rw [Nat.add_mul] at more
  omega

theorem le_of_le_mul (nearest : IsNearest whole num den) (positive : 0 < den) (kept : num ≤ n * den) :
    whole ≤ n := by
  have most := nearest.most
  by_contra long
  have more : (n + 1) * den ≤ whole * den := Nat.mul_le_mul_right den (by omega)
  rw [Nat.mul_assoc] at most
  rw [Nat.add_mul] at more
  omega

theorem eq_of_eq_mul (nearest : IsNearest whole num den) (positive : 0 < den) (exact : num = n * den) :
    whole = n :=
  Nat.le_antisymm (nearest.le_of_le_mul positive exact.le) (nearest.le_of_mul_le positive exact.ge)

theorem even_le_iff (nearest : IsNearest whole num den) (positive : 0 < den) (even : n % 2 = 0) :
    n ≤ whole ↔ 2 * n * den ≤ 2 * num + den := by
  obtain ⟨least, most, tie⟩ := nearest
  rw [Nat.mul_assoc] at most tie ⊢
  rw [Nat.add_mul, Nat.mul_assoc] at least tie
  constructor
  · intro reached
    have less : n * den ≤ whole * den := Nat.mul_le_mul_right den reached
    omega
  · intro close
    by_contra short
    have more : (whole + 1) * den ≤ n * den := Nat.mul_le_mul_right den (by omega)
    rw [Nat.add_mul] at more
    have middle : whole % 2 = 0 := tie (.inl (by omega))
    -- the number after an even one is odd, and the next even one is too far away
    have further : (whole + 2) * den ≤ n * den := Nat.mul_le_mul_right den (by omega)
    rw [Nat.add_mul] at further
    omega

end IsNearest

namespace Double

/-- The double nearest to a whole number of 64 bits: the number itself if it has 53 bits, and a number of 53 bits with
zeros behind it otherwise. -/
structure StandsFor (x : Double) (n : Nat) : Prop where
  den_pos : 0 < x.magnitude.2
  exact : n < 2 ^ 53 → x.magnitude.1 = n * x.magnitude.2
  rounded : 2 ^ 53 ≤ n → x.magnitude.2 = 1 ∧ ∃ zeros significand, 2 ^ (zeros + 52) ≤ n ∧ n < 2 ^ (zeros + 53) ∧
    IsNearest significand n (2 ^ zeros) ∧ x.magnitude.1 = significand * 2 ^ zeros

theorem binaryOrder_one (positive : 0 < n) : binaryOrder n 1 = n.log2 := by
  have least : 2 ^ n.log2 ≤ n := Nat.log2_self_le (Nat.ne_of_gt positive)
  have guess : (n.log2 : Int) - (Nat.log2 1 : Nat) = n.log2 := by
    rw [show Nat.log2 1 = 0 by decide, Nat.cast_zero, Int.sub_zero]
  simp only [binaryOrder, guess]
  split
  · rename_i below
    change (if 0 ≤ (n.log2 : Int) then decide (n < 1 * Nat.pow 2 (n.log2 : Int).toNat)
      else decide (n * Nat.pow 2 (-(n.log2 : Int)).toNat < 1)) = true at below
    rw [if_pos (Int.natCast_nonneg _), Int.toNat_natCast, Nat.one_mul, decide_eq_true_eq] at below
    exact absurd below (Nat.not_lt.mpr least)
  · rfl

theorem magnitude_natCast (negative : Bool) (significand exponent : Nat) :
    (Double.mk negative significand exponent).magnitude = (significand * 2 ^ exponent, 1) := by
  simp [magnitude]

private theorem magnitude_neg_natCast (negative : Bool) (significand : Nat) {shift : Nat} (down : 0 < shift) :
    (Double.mk negative significand (-shift)).magnitude = (significand, 2 ^ shift) := by
  have below : ¬ 0 ≤ -(shift : Int) := by omega
  rw [magnitude, if_neg below]
  simp

private theorem ofNat?_of_lt {shift : Nat} (positive : 0 < n) (down : 0 < shift) (order : n.log2 + shift = 52) :
    ofNat? n = some ⟨false, n * 2 ^ shift, -shift⟩ := by
  have most : n < 2 ^ (n.log2 + 1) := Nat.lt_log2_self
  have exponent : max ((n.log2 : Int) - 52) leastExponent = -shift := by
    have least : leastExponent = -1074 := rfl
    omega
  have whole : roundHalfEven (n * 2 ^ shift) 1 = n * 2 ^ shift :=
    (isNearest_roundHalfEven _ Nat.one_pos).eq_of_eq_mul Nat.one_pos (Nat.mul_one _).symm
  have fits : n * 2 ^ shift < 2 ^ 53 := by
    calc n * 2 ^ shift < 2 ^ (n.log2 + 1) * 2 ^ shift := Nat.mul_lt_mul_of_pos_right most (Nat.two_pow_pos shift)
      _ = 2 ^ (n.log2 + 1 + shift) := (Nat.pow_add ..).symm
      _ = 2 ^ 53 := by rw [show n.log2 + 1 + shift = 53 by omega]
  have below : ¬ 0 ≤ -(shift : Int) := by omega
  have finite : ¬ greatestExponent < -(shift : Int) := by
    have greatest : greatestExponent = 971 := rfl
    omega
  rw [ofNat?, ofRatio, if_neg (Nat.ne_of_gt positive), binaryOrder_one positive, exponent]
  simp only [below, if_false, Int.neg_neg, Int.toNat_natCast, Nat.pow_eq, whole, Nat.ne_of_lt fits, finite]

private theorem exists_ofNat?_of_le {zeros : Nat} (order : n.log2 = zeros + 52) (few : zeros ≤ 11) :
    ∃ x, ofNat? n = some x ∧ x.magnitude = (roundHalfEven n (2 ^ zeros) * 2 ^ zeros, 1) := by
  have positive : 0 < n := by
    by_contra none
    obtain rfl : n = 0 := by omega
    rw [Nat.log2_zero] at order
    omega
  have exponent : max ((n.log2 : Int) - 52) leastExponent = zeros := by
    have least : leastExponent = -1074 := rfl
    omega
  have greatest : greatestExponent = 971 := rfl
  rw [ofNat?, ofRatio, if_neg (Nat.ne_of_gt positive), binaryOrder_one positive, exponent]
  simp only [Int.natCast_nonneg, if_true, Int.toNat_natCast, Nat.pow_eq, Nat.one_mul]
  by_cases carried : roundHalfEven n (2 ^ zeros) = 2 ^ 53
  · have finite : ¬ greatestExponent < (zeros : Int) + 1 := by omega
    refine ⟨⟨false, 2 ^ 52, (zeros : Int) + 1⟩, by simp only [carried, if_true, finite, if_false], ?_⟩
    have shown := magnitude_natCast false (2 ^ 52) (zeros + 1)
    rw [Nat.cast_add, Nat.cast_one] at shown
    rw [shown, carried, Nat.pow_succ]
    congr 1
    ring
  · have finite : ¬ greatestExponent < (zeros : Int) := by omega
    exact ⟨⟨false, roundHalfEven n (2 ^ zeros), zeros⟩, by simp only [carried, finite, if_false],
      magnitude_natCast false _ zeros⟩

theorem exists_ofNat? (positive : 0 < n) (small : n < 2 ^ 64) : ∃ x, ofNat? n = some x ∧ x.StandsFor n := by
  have least : 2 ^ n.log2 ≤ n := Nat.log2_self_le (Nat.ne_of_gt positive)
  have most : n < 2 ^ (n.log2 + 1) := Nat.lt_log2_self
  rcases Nat.lt_or_ge n.log2 52 with few | many
  · obtain ⟨shift, order⟩ := Nat.le.dest few.le
    have down : 0 < shift := by omega
    refine ⟨_, ofNat?_of_lt positive down order, ?_⟩
    have shown := magnitude_neg_natCast false (n * 2 ^ shift) down
    have below : n < 2 ^ 53 := most.trans_le (Nat.pow_le_pow_right (by decide) (by omega))
    constructor
    · rw [shown]
      exact Nat.two_pow_pos shift
    · intro _
      rw [shown]
    · intro large
      omega
  · obtain ⟨zeros, order⟩ := Nat.le.dest many
    rw [Nat.add_comm] at order
    rw [← order] at least most
    have few : zeros ≤ 11 := by
      by_contra more
      have power : 2 ^ 64 ≤ 2 ^ (zeros + 52) := Nat.pow_le_pow_right (by decide) (by omega)
      omega
    have nearest := isNearest_roundHalfEven n (Nat.two_pow_pos zeros)
    obtain ⟨x, read, shown⟩ := exists_ofNat?_of_le order.symm few
    refine ⟨x, read, ?_⟩
    constructor
    · rw [shown]
      exact Nat.one_pos
    · intro below
      have none : zeros = 0 := by
        by_contra some
        have power : 2 ^ 53 ≤ 2 ^ (zeros + 52) := Nat.pow_le_pow_right (by decide) (by omega)
        omega
      subst none
      rw [shown, nearest.eq_of_eq_mul Nat.one_pos (Nat.mul_one n).symm, Nat.pow_zero]
    · intro _
      rw [shown]
      exact ⟨rfl, zeros, _, least, most, nearest, rfl⟩

/-- Rounding takes no number across one of 52 bits. -/
theorem StandsFor.mul_le_iff {x : Double} {bound : Nat} (stands : x.StandsFor n) (small : bound ≤ 2 ^ 52) :
    bound * x.magnitude.2 ≤ x.magnitude.1 ↔ bound ≤ n := by
  rcases Nat.lt_or_ge n (2 ^ 53) with exact | large
  · rw [stands.exact exact]
    exact Nat.mul_le_mul_right_iff stands.den_pos
  · obtain ⟨whole, zeros, significand, least, -, nearest, same⟩ := stands.rounded large
    rw [Nat.add_comm, Nat.pow_add] at least
    have full : 2 ^ 52 ≤ significand := nearest.le_of_mul_le (Nat.two_pow_pos zeros) least
    have shown : 2 ^ 52 ≤ x.magnitude.1 := by
      rw [same]
      exact full.trans (Nat.le_mul_of_pos_right significand (Nat.two_pow_pos zeros))
    rw [whole, Nat.mul_one]
    constructor <;> intro _ <;> omega

end Double
end ProxyWatch.Number
