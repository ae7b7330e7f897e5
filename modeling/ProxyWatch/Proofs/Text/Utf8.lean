import ProxyWatch.Text.Utf8

/-! Every text is read back from its bytes. -/
namespace ProxyWatch.Utf8
variable {pending : Pending} {byte : Nat} {rest : List UInt8}

theorem toNat_toUInt8 (small : byte < 256) : byte.toUInt8.toNat = byte :=
  Nat.mod_eq_of_lt small

private theorem decodeFrom_whole (small : byte < 0x80) :
    decodeFrom none (byte.toUInt8 :: rest) = some (Char.ofNat byte) :: decodeFrom none rest := by
  simp [decodeFrom, toNat_toUInt8 (show byte < 256 by omega), lead, small]

theorem decodeFrom_lead (small : byte < 256) (begun : lead byte = some (.inr pending)) :
    decodeFrom none (byte.toUInt8 :: rest) = decodeFrom (some pending) rest := by
  simp [decodeFrom, toNat_toUInt8 small, begun]

theorem decodeFrom_next (low : pending.low ≤ byte) (high : byte ≤ pending.high) (small : byte < 256)
    (more : pending.missing ≠ 1) :
    decodeFrom (some pending) (byte.toUInt8 :: rest) =
      decodeFrom (some ⟨pending.missing - 1, 0x80, 0xBF, pending.value * 0x40 + (byte - 0x80)⟩) rest := by
  simp [decodeFrom, toNat_toUInt8 small, low, high, more]

theorem decodeFrom_last (low : pending.low ≤ byte) (high : byte ≤ pending.high) (small : byte < 256)
    (last : pending.missing = 1) :
    decodeFrom (some pending) (byte.toUInt8 :: rest) =
      some (Char.ofNat (pending.value * 0x40 + (byte - 0x80))) :: decodeFrom none rest := by
  simp [decodeFrom, toNat_toUInt8 small, low, high, last]

private theorem toNat_range (c : Char) : c.toNat < 0xD800 ∨ 0xDFFF < c.toNat ∧ c.toNat < 0x110000 := c.valid

private theorem lead_two (low : 0xC2 ≤ byte) (high : byte < 0xE0) :
    lead byte = some (.inr ⟨1, 0x80, 0xBF, byte - 0xC0⟩) := by
  rw [lead, if_neg (by omega), if_pos ⟨low, high⟩]

/-- What the first of three bytes leaves open: the second one keeps out what two bytes write, and
surrogates. -/
theorem lead_three (low : 0xE0 ≤ byte) (high : byte < 0xF0) :
    ∃ least most, lead byte = some (.inr ⟨2, least, most, byte - 0xE0⟩) ∧
      (least = 0x80 ∨ byte = 0xE0 ∧ least = 0xA0) ∧ (most = 0xBF ∨ byte = 0xED ∧ most = 0x9F) := by
  by_cases first : byte = 0xE0
  · subst first
    exact ⟨_, _, rfl, .inr ⟨rfl, rfl⟩, .inl rfl⟩
  · by_cases surrogate : byte = 0xED
    · subst surrogate
      exact ⟨_, _, rfl, .inl rfl, .inr ⟨rfl, rfl⟩⟩
    · refine ⟨0x80, 0xBF, ?_, .inl rfl, .inl rfl⟩
      rw [lead, if_neg (by omega), if_neg (by omega), if_neg first, if_neg surrogate, if_pos (by omega)]

/-- What the first of four bytes leaves open: the second one keeps out what three bytes write, and what
no character has as its number. -/
theorem lead_four (low : 0xF0 ≤ byte) (high : byte < 0xF5) :
    ∃ least most, lead byte = some (.inr ⟨3, least, most, byte - 0xF0⟩) ∧
      (least = 0x80 ∨ byte = 0xF0 ∧ least = 0x90) ∧ (most = 0xBF ∨ byte = 0xF4 ∧ most = 0x8F) := by
  by_cases first : byte = 0xF0
  · subst first
    exact ⟨_, _, rfl, .inr ⟨rfl, rfl⟩, .inl rfl⟩
  · by_cases last : byte = 0xF4
    · subst last
      exact ⟨_, _, rfl, .inl rfl, .inr ⟨rfl, rfl⟩⟩
    · refine ⟨0x80, 0xBF, ?_, .inl rfl, .inl rfl⟩
      rw [lead, if_neg (by omega), if_neg (by omega), if_neg (by omega), if_neg (by omega),
        if_neg (by omega), if_neg first, if_pos (by omega)]

private theorem decodeFrom_encodeChar (c : Char) (rest : List UInt8) :
    decodeFrom none (encodeChar c ++ rest) = some c :: decodeFrom none rest := by
  have range := toNat_range c
  have whole {n : Nat} (same : n = c.toNat) : Char.ofNat n = c := by rw [same, Char.ofNat_toNat]
  unfold encodeChar
  generalize number : c.toNat = n at range whole
  dsimp only
  split
  · rw [List.cons_append, List.nil_append, decodeFrom_whole (by omega), whole rfl]
  · split
    · simp only [List.cons_append, List.nil_append]
      rw [decodeFrom_lead (by omega) (lead_two (by omega) (by omega)),
        decodeFrom_last (by dsimp only; omega) (by dsimp only; omega) (by omega) rfl]
      rw [whole (by dsimp only; omega)]
    · split
      · simp only [List.cons_append, List.nil_append]
        obtain ⟨least, most, begun, low, high⟩ := lead_three (show 0xE0 ≤ 0xE0 + n / 0x1000 by omega) (by omega)
        rw [decodeFrom_lead (by omega) begun,
          decodeFrom_next (by dsimp only; omega) (by dsimp only; omega) (by omega) (by simp),
          decodeFrom_last (by dsimp only; omega) (by dsimp only; omega) (by omega) rfl]
        rw [whole (by dsimp only; omega)]
      · simp only [List.cons_append, List.nil_append]
        obtain ⟨least, most, begun, low, high⟩ := lead_four (show 0xF0 ≤ 0xF0 + n / 0x40000 by omega) (by omega)
        rw [decodeFrom_lead (by omega) begun,
          decodeFrom_next (by dsimp only; omega) (by dsimp only; omega) (by omega) (by simp),
          decodeFrom_next (by dsimp only; omega) (by dsimp only; omega) (by omega) (by simp),
          decodeFrom_last (by dsimp only; omega) (by dsimp only; omega) (by omega) rfl]
        rw [whole (by dsimp only; omega)]

/-- Every text is what its bytes write. -/
theorem decode?_encode (text : List Char) : decode? (encode text) = some text := by
  have told : decodeFrom none (encode text) = text.map some := by
    induction text with
    | nil => rfl
    | cons c rest ih =>
      rw [encode, List.flatMap_cons, decodeFrom_encodeChar, ← encode, ih, List.map_cons]
  have whole : (text.map some).mapM id = some (text.map id) := (List.mapM_map ..).trans List.mapM_pure
  rw [decode?, told, whole, List.map_id]

end ProxyWatch.Utf8
