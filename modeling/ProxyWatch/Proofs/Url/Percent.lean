import ProxyWatch.Proofs.Text.Utf8
import ProxyWatch.Url.Percent

/-! What percent-encoding keeps, and that it is read back. -/
namespace ProxyWatch.Url

/-- What is said of the characters in a list is decided along the list, not for all characters. -/
scoped instance (priority := high) decidableAlong (said : Char → Prop) [DecidablePred said] (text : List Char) :
    Decidable (∀ c ∈ text, said c) :=
  List.decidableBAll said text

/-- The characters that stand for themselves in a part of a url. -/
def EncodeSet.Keeps (set : EncodeSet) (c : Char) : Prop :=
  0x20 ≤ c.toNat ∧ c.toNat < 0x7F ∧ c ∉ set.members

/-- The characters that encoding writes: percent signs and digits. -/
def escapes : List Char := '%' :: (List.range 16).map hexUpper

/-- A set without the characters that encoding writes. -/
def EncodeSet.IsStable (set : EncodeSet) : Prop := ∀ c ∈ escapes, set.Keeps c

instance (set : EncodeSet) (c : Char) : Decidable (set.Keeps c) := inferInstanceAs (Decidable (_ ∧ _ ∧ _))

instance (set : EncodeSet) : Decidable set.IsStable := inferInstanceAs (Decidable (∀ c ∈ escapes, set.Keeps c))

variable {set : EncodeSet} {c d : Char} {text : List Char}

/-- A set with the blank keeps marks and letters only. -/
theorem EncodeSet.Keeps.blank_lt (kept : set.Keeps c) (blank : ' ' ∈ set.members) : 0x20 < c.toNat := by
  refine Nat.lt_of_le_of_ne kept.1 fun same => kept.2.2 ?_
  rw [show c = ' ' from Char.toNat_inj.mp same.symm]
  exact blank

theorem encodeChar_of_keeps (kept : set.Keeps c) : encodeChar set c = [c] := by
  obtain ⟨low, high, out⟩ := kept
  simp [encodeChar, out, Nat.not_lt.mpr low, Nat.not_le.mpr high]

theorem encodeChar_of_not_keeps (changed : ¬ set.Keeps c) : encodeChar set c = percentChar c := by
  rw [encodeChar, if_pos]
  by_cases low : c.toNat < 0x20
  · simp [low]
  by_cases high : 0x7F ≤ c.toNat
  · simp [high]
  have member : c ∈ set.members := by
    refine Decidable.byContradiction fun out => changed ⟨?_, ?_, out⟩ <;> omega
  simp [member]

/-- What stands for itself is written as it is. -/
theorem percentEncode_of_keeps (kept : ∀ c ∈ text, set.Keeps c) : percentEncode set text = text := by
  induction text with
  | nil => rfl
  | cons c rest ih =>
    rw [percentEncode, List.flatMap_cons, encodeChar_of_keeps (kept c List.mem_cons_self), ← percentEncode,
      ih fun d member => kept d (List.mem_cons_of_mem c member)]
    rfl

theorem mem_escapes_of_mem_percentByte {byte : UInt8} (member : c ∈ percentByte byte) : c ∈ escapes := by
  have small := byte.toNat_lt
  have digit (n : Nat) (less : n < 16) : hexUpper n ∈ escapes :=
    List.mem_cons_of_mem _ (List.mem_map_of_mem (List.mem_range.mpr less))
  obtain rfl | rfl | rfl : c = '%' ∨ c = hexUpper (byte.toNat / 16) ∨ c = hexUpper (byte.toNat % 16) := by
    simpa [percentByte] using member
  · exact List.mem_cons_self
  · exact digit _ (by omega)
  · exact digit _ (by omega)

/-- What encoding writes are characters that stand for themselves, and percent signs with digits. -/
theorem mem_percentEncode (member : c ∈ percentEncode set text) : c ∈ text ∧ set.Keeps c ∨ c ∈ escapes := by
  obtain ⟨d, within, written⟩ := List.mem_flatMap.mp member
  by_cases kept : set.Keeps d
  · rw [encodeChar_of_keeps kept, List.mem_singleton] at written
    subst written
    exact .inl ⟨within, kept⟩
  · rw [encodeChar_of_not_keeps kept] at written
    obtain ⟨byte, -, digit⟩ := List.mem_flatMap.mp written
    exact .inr (mem_escapes_of_mem_percentByte digit)

/-- Encoding writes only what it keeps, unless its set has the percent sign. -/
theorem keeps_of_mem_percentEncode (stable : set.IsStable) (member : c ∈ percentEncode set text) :
    set.Keeps c := by
  obtain ⟨-, kept⟩ | written := mem_percentEncode member
  · exact kept
  · exact stable c written

/-- A character that is encoded does not stand in an encoded text. -/
theorem not_mem_percentEncode (changed : ¬ set.Keeps c) (other : c ∉ escapes) : c ∉ percentEncode set text := by
  intro member
  obtain ⟨-, kept⟩ | written := mem_percentEncode member
  · exact changed kept
  · exact other written

theorem percentEncode_eq_nil_iff : percentEncode set text = [] ↔ text = [] := by
  constructor
  · intro empty
    cases text with
    | nil => rfl
    | cons c rest =>
      have written : encodeChar set c = [] := (List.append_eq_nil_iff.mp empty).1
      by_cases kept : set.Keeps c
      · simp [encodeChar_of_keeps kept] at written
      · rw [encodeChar_of_not_keeps kept, percentChar, Utf8.encodeChar] at written
        split at written
        · cases written
        · split at written
          · cases written
          · split at written <;> cases written
  · rintro rfl
    rfl

/-- Encoding again changes nothing. -/
theorem percentEncode_idem (stable : set.IsStable) :
    percentEncode set (percentEncode set text) = percentEncode set text :=
  percentEncode_of_keeps fun _ => keeps_of_mem_percentEncode stable

theorem hexValue?_hexUpper : ∀ n < 16, hexValue? (hexUpper n) = some n := by decide

theorem percentDecode_cons (different : c ≠ '%') (rest : List Char) :
    percentDecode (c :: rest) = Utf8.encodeChar c ++ percentDecode rest := by
  rw [percentDecode]
  rintro _ _ _ rfl
  exact absurd rfl different

private theorem percentDecode_percentByte (byte : UInt8) (rest : List Char) :
    percentDecode (percentByte byte ++ rest) = byte :: percentDecode rest := by
  have small := byte.toNat_lt
  have high : hexValue? (hexUpper (byte.toNat / 16)) = some (byte.toNat / 16) :=
    hexValue?_hexUpper _ (by omega)
  have low : hexValue? (hexUpper (byte.toNat % 16)) = some (byte.toNat % 16) :=
    hexValue?_hexUpper _ (by omega)
  have whole : byte.toNat / 16 * 16 + byte.toNat % 16 = byte.toNat := by omega
  simp [percentByte, percentDecode, high, low, whole]

private theorem percentDecode_percentChar (c : Char) (rest : List Char) :
    percentDecode (percentChar c ++ rest) = Utf8.encodeChar c ++ percentDecode rest := by
  rw [percentChar]
  induction Utf8.encodeChar c with
  | nil => rfl
  | cons byte more ih =>
    rw [List.flatMap_cons, List.append_assoc, percentDecode_percentByte, ih, List.cons_append]

private theorem percentDecode_encodeChar (escaped : '%' ∈ set.members) (c : Char) (rest : List Char) :
    percentDecode (encodeChar set c ++ rest) = Utf8.encodeChar c ++ percentDecode rest := by
  by_cases kept : set.Keeps c
  · have different : c ≠ '%' := fun same => kept.2.2 (same ▸ escaped)
    rw [encodeChar_of_keeps kept]
    exact percentDecode_cons different rest
  · rw [encodeChar_of_not_keeps kept, percentDecode_percentChar]

private theorem percentDecode_percentEncode (escaped : '%' ∈ set.members) (text : List Char) :
    percentDecode (percentEncode set text) = Utf8.encode text := by
  induction text with
  | nil => rfl
  | cons c rest ih =>
    rw [percentEncode, List.flatMap_cons, percentDecode_encodeChar escaped, ← percentEncode, ih]
    rfl

theorem decode?_percentEncode (escaped : '%' ∈ set.members) (text : List Char) :
    Utf8.decode? (percentDecode (percentEncode set text)) = some text := by
  rw [percentDecode_percentEncode escaped, Utf8.decode?_encode]

/-- Only one text has the bytes that an encoding writes. -/
theorem eq_of_percentDecode (escaped : '%' ∈ set.members) {other : List Char}
    (same : percentDecode (percentEncode set text) = Utf8.encode other) : text = other := by
  have told := decode?_percentEncode escaped text
  rw [same, Utf8.decode?_encode] at told
  exact (Option.some.inj told).symm

/-- A text without a percent sign stands for itself. -/
theorem decode?_percentDecode (plain : '%' ∉ text) : Utf8.decode? (percentDecode text) = some text := by
  have same : percentDecode text = Utf8.encode text := by
    induction text with
    | nil => rfl
    | cons c rest ih =>
      have ⟨head, tail⟩ : '%' ≠ c ∧ '%' ∉ rest := by simpa using plain
      rw [percentDecode_cons head.symm, ih tail]
      rfl
  rw [same, Utf8.decode?_encode]

end ProxyWatch.Url
