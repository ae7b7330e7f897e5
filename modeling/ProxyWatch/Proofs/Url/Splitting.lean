import ProxyWatch.Url.Host

/-! Splitting a text at a separator, and joining the parts. -/
namespace ProxyWatch.Url
variable {separator c : Char} {text part rest : List Char} {parts : List (List Char)}

/-- A text is taken up to the first character that does not belong to it. -/
theorem span_append {test : Char → Bool} (rest : List Char) (all : ∀ c ∈ text, test c = true)
    (stop : ∀ c ∈ rest.head?, test c = false) :
    (text ++ rest).takeWhile test = text ∧ (text ++ rest).dropWhile test = rest := by
  rw [List.takeWhile_append_of_pos all, List.dropWhile_append_of_pos all]
  cases rest with
  | nil => simp
  | cons c rest => simp [stop c rfl]

/-- A text is taken up to a mark that it does not have. -/
theorem span_mark {mark : Char} (absent : mark ∉ text) (stop : ∀ c ∈ rest.head?, c = mark) :
    (text ++ rest).takeWhile (· != mark) = text ∧ (text ++ rest).dropWhile (· != mark) = rest :=
  span_append rest (fun c member => by simpa using fun same : c = mark => absent (same ▸ member))
    fun c head => by simp [stop c head]

theorem span_all {test : Char → Bool} (all : ∀ c ∈ text, test c = true) :
    text.takeWhile test = text ∧ text.dropWhile test = [] := by
  have span := span_append [] all nofun
  rwa [List.append_nil] at span

theorem dropWhile_of_head {test : Char → Bool} (stop : ∀ c ∈ text.head?, test c = false) :
    text.dropWhile test = text := by
  cases text with
  | nil => rfl
  | cons c text => simp [stop c rfl]

theorem splitOn_ne_nil (separator : Char) (text : List Char) : splitOn separator text ≠ [] := by
  cases text with
  | nil => nofun
  | cons c rest =>
    rw [splitOn]
    split
    · nofun
    · split <;> nofun

theorem splitOn_cons_of_ne (other : c ≠ separator) (text : List Char) :
    ∃ part parts, splitOn separator text = part :: parts ∧ splitOn separator (c :: text) = (c :: part) :: parts := by
  obtain ⟨part, parts, split⟩ := List.exists_cons_of_ne_nil (splitOn_ne_nil separator text)
  exact ⟨part, parts, split, by rw [splitOn, if_neg other, split]⟩

/-- What stands before the first separator is the first part. -/
theorem splitOn_append (plain : separator ∉ part) (rest : List Char) :
    splitOn separator (part ++ separator :: rest) = part :: splitOn separator rest := by
  induction part with
  | nil => rw [List.nil_append, splitOn, if_pos rfl]
  | cons c part ih =>
    have ⟨other, plain⟩ : separator ≠ c ∧ separator ∉ part := by simpa using plain
    rw [List.cons_append, splitOn, if_neg other.symm, ih plain]

private theorem splitOn_of_not_mem (plain : separator ∉ part) : splitOn separator part = [part] := by
  induction part with
  | nil => rfl
  | cons c part ih =>
    have ⟨other, plain⟩ : separator ≠ c ∧ separator ∉ part := by simpa using plain
    rw [splitOn, if_neg other.symm, ih plain]

/-- The parts of a join come before those of what follows it. -/
theorem splitOn_joinWith_append (some : parts ≠ []) (plain : ∀ part ∈ parts, separator ∉ part) (rest : List Char) :
    splitOn separator (joinWith [separator] parts ++ separator :: rest) = parts ++ splitOn separator rest := by
  induction parts with
  | nil => exact absurd rfl some
  | cons part parts ih =>
    have first := plain part List.mem_cons_self
    cases parts with
    | nil => exact splitOn_append first rest
    | cons next parts =>
      rw [joinWith, List.append_assoc, List.append_assoc, List.singleton_append, splitOn_append first,
        ih nofun fun other later => plain other (.tail _ later)]
      · rfl
      · nofun

/-- Parts are what their join is split into. -/
theorem splitOn_joinWith (some : parts ≠ []) (plain : ∀ part ∈ parts, separator ∉ part) :
    splitOn separator (joinWith [separator] parts) = parts := by
  induction parts with
  | nil => exact absurd rfl some
  | cons part parts ih =>
    have first := plain part List.mem_cons_self
    cases parts with
    | nil => exact splitOn_of_not_mem first
    | cons next parts =>
      rw [joinWith, List.append_assoc, List.singleton_append, splitOn_append first,
        ih nofun fun other later => plain other (.tail _ later)]
      nofun

/-- The parts of a text make it up again. -/
theorem joinWith_splitOn (separator : Char) (text : List Char) :
    joinWith [separator] (splitOn separator text) = text := by
  induction text with
  | nil => rfl
  | cons c rest ih =>
    by_cases same : c = separator
    · obtain ⟨part, parts, split⟩ := List.exists_cons_of_ne_nil (splitOn_ne_nil separator rest)
      rw [splitOn, if_pos same, split, joinWith, ← split, ih, same]
      · rfl
      · nofun
    · obtain ⟨part, parts, split, whole⟩ := splitOn_cons_of_ne same rest
      rw [split] at ih
      rw [whole, ← ih]
      cases parts <;> rfl

/-- The parts of a text have its characters but the separators. -/
theorem mem_of_mem_splitOn (member : part ∈ splitOn separator text) (within : c ∈ part) :
    c ∈ text ∧ c ≠ separator := by
  induction text generalizing part with
  | nil =>
    obtain rfl := List.mem_singleton.mp member
    cases within
  | cons d rest ih =>
    by_cases same : d = separator
    · rw [splitOn, if_pos same] at member
      obtain rfl | later := List.mem_cons.mp member
      · cases within
      · exact ⟨.tail _ (ih later within).1, (ih later within).2⟩
    · obtain ⟨first, parts, split, whole⟩ := splitOn_cons_of_ne same rest
      rw [split] at ih
      rw [whole] at member
      obtain rfl | later := List.mem_cons.mp member
      · obtain rfl | further := List.mem_cons.mp within
        · exact ⟨List.mem_cons_self, same⟩
        · exact ⟨.tail _ (ih List.mem_cons_self further).1, (ih List.mem_cons_self further).2⟩
      · exact ⟨.tail _ (ih (.tail _ later) within).1, (ih (.tail _ later) within).2⟩

theorem mem_joinWith (member : c ∈ joinWith [separator] parts) : c = separator ∨ ∃ part ∈ parts, c ∈ part := by
  induction parts with
  | nil => cases member
  | cons part parts ih =>
    cases parts with
    | nil => exact .inr ⟨part, List.mem_cons_self, member⟩
    | cons next parts =>
      rw [joinWith, List.append_assoc] at member
      · obtain here | later := List.mem_append.mp member
        · exact .inr ⟨part, List.mem_cons_self, here⟩
        · obtain rfl | later := List.mem_cons.mp later
          · exact .inl rfl
          · obtain same | ⟨other, among, within⟩ := ih later
            · exact .inl same
            · exact .inr ⟨other, .tail _ among, within⟩
      · nofun

/-- What is read from parts is read from one of them. -/
theorem exists_of_mem_mapM {Part Value : Type} {read : Part → Option Value} {parts : List Part}
    {values : List Value} (all : parts.mapM read = some values) {value : Value} (member : value ∈ values) :
    ∃ part ∈ parts, read part = some value := by
  induction parts generalizing values with
  | nil =>
    cases all
    cases member
  | cons part parts ih =>
    rw [List.mapM_cons] at all
    obtain ⟨first, head, all⟩ := Option.bind_eq_some_iff.mp all
    obtain ⟨rest, tail, same⟩ := Option.bind_eq_some_iff.mp all
    cases same
    obtain rfl | later := List.mem_cons.mp member
    · exact ⟨part, List.mem_cons_self, head⟩
    · obtain ⟨other, among, found⟩ := ih tail later
      exact ⟨other, .tail _ among, found⟩

theorem mapM_eq_map {Part Value : Type} {read : Part → Option Value} {write : Part → Value} {parts : List Part}
    (each : ∀ part ∈ parts, read part = some (write part)) : parts.mapM read = some (parts.map write) := by
  induction parts with
  | nil => rfl
  | cons part parts ih =>
    rw [List.mapM_cons, each part List.mem_cons_self, ih fun other later => each other (.tail _ later)]
    rfl

private theorem hexValue?_digitChar : ∀ d < 16, hexValue? (Nat.digitChar d) = some d := by decide

theorem readBase_append_digit {base front d : Nat} {digits : List Char} (read : readBase base digits = some front)
    (small : d < base) (hexadecimal : base ≤ 16) :
    readBase base (digits ++ [Nat.digitChar d]) = some (front * base + d) := by
  rw [readBase] at read
  rw [readBase, List.foldlM_append, read]
  simp [hexValue?_digitChar d (Nat.lt_of_lt_of_le small hexadecimal), small]

/-- A number is read back from its digits. -/
theorem readBase_toDigits {base : Nat} (two : 1 < base) (hexadecimal : base ≤ 16) (n : Nat) :
    readBase base (Nat.toDigits base n) = some n := by
  induction n using Nat.strongRecOn with
  | ind n ih =>
    by_cases small : n < base
    · rw [Nat.toDigits_of_lt_base small]
      simpa using readBase_append_digit (show readBase base [] = some 0 from rfl) small hexadecimal
    · have less : n / base < n := Nat.div_lt_self (by omega) two
      rw [Nat.toDigits_of_base_le two (Nat.le_of_not_lt small),
        readBase_append_digit (ih _ less) (Nat.mod_lt _ (by omega)) hexadecimal, Nat.div_add_mod']

end ProxyWatch.Url
