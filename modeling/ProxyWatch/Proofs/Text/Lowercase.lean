import ProxyWatch.Text.Lowercase

/-! What lower case leaves alone. -/
namespace ProxyWatch.Text
variable {c d : Char}

theorem toNat_toLower (c : Char) :
    c.toLower.toNat = if 65 ≤ c.toNat ∧ c.toNat ≤ 90 then c.toNat + 32 else c.toNat := by
  have upper : (c.val ≥ 'A'.val ∧ c.val ≤ 'Z'.val) ↔ 65 ≤ c.toNat ∧ c.toNat ≤ 90 := Iff.rfl
  unfold Char.toLower
  simp only [upper]
  split
  · rename_i within
    have small : c.val.toNat ≤ 90 := within.2
    have sum : (c.val + 32).toNat = c.val.toNat + 32 :=
      (UInt32.toNat_add ..).trans (Nat.mod_eq_of_lt (by simp; omega))
    exact sum
  · rfl

theorem toLower_of_not_upper (other : ¬ (65 ≤ c.toNat ∧ c.toNat ≤ 90)) : c.toLower = c :=
  Char.toNat_inj.mp ((toNat_toLower c).trans (if_neg other))

/-- What is no lower case letter has no upper case. -/
theorem eq_of_toLower (lowered : c.toLower = d) (other : ¬ (97 ≤ d.toNat ∧ d.toNat ≤ 122)) : c = d := by
  subst lowered
  rw [toNat_toLower] at other
  refine (toLower_of_not_upper fun upper => other ?_).symm
  rw [if_pos upper]
  omega

/-- A letter is the lower case of itself and of its upper case. -/
theorem toNat_of_toLower (lowered : c.toLower = d) : c.toNat = d.toNat ∨ c.toNat + 32 = d.toNat := by
  subst lowered
  rw [toNat_toLower]
  split
  · exact .inr rfl
  · exact .inl rfl

theorem toLower_toLower (c : Char) : c.toLower.toLower = c.toLower := by
  refine toLower_of_not_upper ?_
  rw [toNat_toLower]
  split <;> omega

private theorem toNat_ofNat_or (n : Nat) : (Char.ofNat n).toNat = n ∨ Char.ofNat n = '\x00' := by
  unfold Char.ofNat
  by_cases valid : n.isValidChar
  · rw [dif_pos valid]
    exact .inl rfl
  · rw [dif_neg valid]
    exact .inr rfl

/-- Of the letters beyond ASCII only one has its lower case there. -/
theorem ascii_of_lowercaseRanges : ∀ range ∈ lowercaseRanges,
    (128 : Int) ≤ range.first + range.offset ∨ range.first = range.last ∧ range.first + range.offset = 107 := by
  decide +kernel

/-- Lower case is not lowered again. -/
theorem toLower_of_mem_lowerChar (member : d ∈ lowerChar c) (ascii : d.toNat < 128) : d.toLower = d := by
  unfold lowerChar at member
  split at member
  · rw [List.mem_singleton] at member
    rw [member, toLower_toLower]
  · split at member
    · obtain rfl | rfl : d = 'i' ∨ d = '\u0307' := by simpa using member
      · rfl
      · exact absurd ascii (by decide)
    · split at member
      · rename_i range found
        rw [List.mem_singleton] at member
        have covered : (range.first ≤ c.toNat ∧ c.toNat ≤ range.last) ∧ (c.toNat - range.first) % range.step = 0 := by
          simpa [CaseRange.covers] using List.find?_some found
        subst member
        obtain beyond | ⟨single, letter⟩ := ascii_of_lowercaseRanges range (List.mem_of_find?_eq_some found)
        · obtain same | none := toNat_ofNat_or ((c.toNat : Int) + range.offset).toNat
          · omega
          · rw [none]
            rfl
        · have same : ((c.toNat : Int) + range.offset).toNat = 107 := by omega
          rw [same]
          rfl
      · rename_i beyond _ _ _
        rw [List.mem_singleton] at member
        exact absurd (member ▸ ascii) beyond

end ProxyWatch.Text
