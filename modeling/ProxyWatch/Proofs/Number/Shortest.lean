import ProxyWatch.Number.Shortest

/-! The shortest decimal of a number that is not zero has a digit that is not zero. -/
namespace ProxyWatch.Number

theorem Decimal.ratio_of_zero {d : Decimal} (zero : d.digits = 0) : d.ratio.1 = 0 ∧ 0 < d.ratio.2 := by
  unfold ratio
  split
  · rw [zero]
    exact ⟨Nat.zero_mul _, Nat.one_pos⟩
  · exact ⟨zero, Nat.pow_pos (by decide)⟩

namespace Double
namespace Interval
variable {i : Interval} {k : Int} {d : Decimal}

/-- The ends of an interval and the value in it are above zero. -/
structure IsPositive (i : Interval) : Prop where
  low : 0 < i.low
  value : 0 < i.value
  den : 0 < i.den

/-- No grid from the leading digit on misses the value. -/
theorem gridFloor_pos (positive : i.IsPositive) (below : k ≤ i.leadingExponent) : 0 < i.gridFloor k := by
  have value := positive.value
  have den := positive.den
  unfold leadingExponent at below
  unfold gridFloor
  split at below
  · rename_i atLeastOne
    have quotient : 0 < i.value / i.den := Nat.div_pos atLeastOne den
    split
    · -- the quotient has more digits than the grid leaves off
      have fewer : ¬ (Nat.toDigits 10 (i.value / i.den)).length ≤ k.toNat := by omega
      have power : Nat.pow 10 k.toNat ≤ i.value / i.den := by
        rcases Nat.eq_zero_or_pos k.toNat with zero | some
        · rw [zero]
          exact quotient
        · rw [Nat.length_toDigits_le_iff (by decide) some] at fewer
          exact Nat.not_lt.mp fewer
      refine Nat.div_pos ?_ (Nat.mul_pos den (Nat.pow_pos (by decide)))
      rw [Nat.mul_comm]
      exact (Nat.le_div_iff_mul_le den).mp power
    · exact Nat.div_pos (Nat.le_trans atLeastOne (Nat.le_mul_of_pos_right _ (Nat.pow_pos (by decide)))) den
  · rename_i belowOne
    have zeros : 0 < (Nat.toDigits 10 ((i.den - 1) / i.value)).length := Nat.length_toDigits_pos
    rw [if_neg (by omega)]
    -- as many places as the inverse has digits bring the value up to one
    have power : (i.den - 1) / i.value < Nat.pow 10 (-k).toNat :=
      (Nat.length_toDigits_le_iff (by decide) (by omega)).mp (by omega)
    have raised : i.den - 1 < i.value * Nat.pow 10 (-k).toNat := by
      rw [Nat.mul_comm]
      exact (Nat.div_lt_iff_lt_mul value).mp power
    exact Nat.div_pos (by omega) den

theorem not_contains_of_zero (positive : i.IsPositive) (zero : d.digits = 0) : i.contains d = false := by
  have ratio := Decimal.ratio_of_zero zero
  cases same : d.ratio with
  | mk num den =>
    rw [same] at ratio
    obtain ⟨rfl, above⟩ := ratio
    have low : 0 < i.low * den := Nat.mul_pos positive.low above
    rw [contains, same]
    cases closed : i.closed with
    | true => simp [Nat.not_le.mpr low]
    | false => simp

private theorem digits_of_nearestOn? (positive : i.IsPositive) (found : i.nearestOn? k = some d) : d.digits ≠ 0 := by
  intro zero
  have outside := not_contains_of_zero positive zero
  simp only [nearestOn?] at found
  split at found
  · rename_i floorIn _
    split at found
    · cases found
      cases outside.symm.trans floorIn
    · cases found
      exact Nat.succ_ne_zero _ zero
  · rename_i floorIn _
    cases found
    cases outside.symm.trans floorIn
  · cases found
    exact Nat.succ_ne_zero _ zero
  · cases found

private theorem digits_of_shortestFrom (positive : i.IsPositive) (more : Nat) {width : Nat} (some : 0 < width) :
    (i.shortestFrom i.leadingExponent width more).digits ≠ 0 := by
  induction more generalizing width with
  | zero =>
    have seen : 0 < i.gridFloor (i.leadingExponent - width + 1) := gridFloor_pos positive (by omega)
    exact Nat.ne_of_gt seen
  | succ more ih =>
    unfold shortestFrom
    split
    · rename_i found
      exact digits_of_nearestOn? positive found
    · exact ih (Nat.zero_lt_succ _)

end Interval

variable {x : Double}

private theorem isPositive_interval (nonzero : x.significand ≠ 0) : x.interval.IsPositive := by
  have power (n : Nat) : 0 < Nat.pow 2 n := Nat.pow_pos (by decide)
  unfold interval
  constructor
  · refine Nat.mul_pos ?_ ?_
    · split <;> omega
    · split
      · exact power _
      · exact Nat.one_pos
  · refine Nat.mul_pos (by omega) ?_
    split
    · exact power _
    · exact Nat.one_pos
  · dsimp only
    split
    · exact Nat.one_pos
    · exact power _

theorem digits_shortest (nonzero : x.significand ≠ 0) : x.shortest.digits ≠ 0 :=
  Interval.digits_of_shortestFrom (isPositive_interval nonzero) 17 Nat.one_pos

end Double
end ProxyWatch.Number
