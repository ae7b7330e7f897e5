import ProxyWatch.Url.Punycode

/-! Every label is read back from its ASCII form.

The encoder counts the places that the decoder passes by: a difference is the way from where the decoder
stands to the next character beyond ASCII, in the order of code points and, for one of them, of places. -/
namespace ProxyWatch.Url.Punycode

theorem digitValue?_digitChar : ∀ d < 36, digitValue? (digitChar d) = some d := by decide

private theorem digitChar_ne_hyphen : ∀ d < 36, digitChar d ≠ '-' := by decide

theorem encodeNumber_more {q position bias : Nat} (more : ¬ q < threshold position bias) :
    ∃ d < 36, ¬ d < threshold position bias ∧
      q = d + (q - threshold position bias) / (36 - threshold position bias) * (36 - threshold position bias) ∧
      encodeNumber q position bias = digitChar d ::
        encodeNumber ((q - threshold position bias) / (36 - threshold position bias)) (position + 36) bias := by
  have range := threshold_range position bias
  have small := Nat.mod_lt (q - threshold position bias) (show 0 < 36 - threshold position bias by omega)
  have whole := Nat.mod_add_div' (q - threshold position bias) (36 - threshold position bias)
  refine ⟨threshold position bias + (q - threshold position bias) % (36 - threshold position bias),
    by omega, by omega, by omega, ?_⟩
  rw [encodeNumber, if_neg more]

private theorem decodeNumber_encodeNumber (q position bias weight total : Nat) (rest : List Char) :
    decodeNumber bias position weight total (encodeNumber q position bias ++ rest) =
      some (total + q * weight, rest) := by
  induction q, position using encodeNumber.induct bias generalizing weight total with
  | case1 q position t last =>
    have range := threshold_range position bias
    have value := digitValue?_digitChar q (by omega)
    rw [encodeNumber, if_pos last]
    simp [decodeNumber, value, last, t]
  | case2 q position t more ih =>
    obtain ⟨d, small, large, whole, written⟩ := encodeNumber_more more
    simp only [written, List.cons_append, decodeNumber, digitValue?_digitChar d small, if_neg large]
    rw [ih]
    generalize (q - threshold position bias) / (36 - threshold position bias) = left at whole
    generalize 36 - threshold position bias = base at whole
    rw [whole, Nat.add_mul, Nat.mul_assoc, Nat.mul_comm weight base, Nat.add_assoc]

theorem exists_cons_encodeNumber (q position bias : Nat) :
    ∃ digit digits, encodeNumber q position bias = digit :: digits := by
  by_cases last : q < threshold position bias
  · exact ⟨_, _, by rw [encodeNumber, if_pos last]⟩
  · obtain ⟨d, -, -, -, written⟩ := encodeNumber_more last
    exact ⟨_, _, written⟩

theorem mem_encodeNumber {q position bias : Nat} {c : Char} (member : c ∈ encodeNumber q position bias) :
    ∃ d < 36, c = digitChar d := by
  induction q, position using encodeNumber.induct bias with
  | case1 q position t last =>
    have range := threshold_range position bias
    rw [encodeNumber, if_pos last, List.mem_singleton] at member
    exact ⟨q, by omega, member⟩
  | case2 q position t more ih =>
    obtain ⟨d, small, -, -, written⟩ := encodeNumber_more more
    rw [written] at member
    obtain rfl | later := List.mem_cons.mp member
    · exact ⟨d, small, rfl⟩
    · exact ih later

/-- The code points of characters. -/
def IsPoint (point : Nat) : Prop := ¬ (0x110000 ≤ point ∨ 0xD800 ≤ point ∧ point < 0xE000)

variable {point next index place fuel : Nat} {later : List Char}

/-- A difference leads the decoder to the next code point and its place. -/
theorem decodeLoop_number {delta bias : Nat} {first : Bool} {output : List Nat} (valid : IsPoint point)
    (within : next ≤ point) (placed : place ≤ output.length)
    (stands : index + delta = (point - next) * (output.length + 1) + place) :
    decodeLoop (fuel + 1) next index bias first output (encodeNumber delta 36 bias ++ later) =
      decodeLoop fuel point (place + 1) (adapt delta (output.length + 1) first) false
        (output.insertIdx place point) later := by
  have less : place < output.length + 1 := Nat.lt_succ_of_le placed
  have reached : (index + delta) / (output.length + 1) = point - next := by
    rw [stands, Nat.mul_comm, Nat.mul_add_div (Nat.succ_pos _), Nat.div_eq_of_lt less, Nat.add_zero]
  have there : (index + delta) % (output.length + 1) = place := by
    rw [stands, Nat.mul_comm, Nat.mul_add_mod, Nat.mod_eq_of_lt less]
  have read := decodeNumber_encodeNumber delta 36 bias 1 index later
  obtain ⟨digit, digits, written⟩ := exists_cons_encodeNumber delta 36 bias
  rw [written, List.cons_append, Nat.mul_one] at read
  rw [written, List.cons_append, decodeLoop, read]
  · simp only [reached, there, Nat.add_sub_cancel_left, Nat.add_sub_cancel' within]
    rw [if_neg valid]
  · nofun

theorem insertIdx_length_append (before after : List Nat) (n : Nat) :
    (before ++ after).insertIdx before.length n = before ++ n :: after := by
  induction before with
  | nil => rfl
  | cons m before ih => rw [List.cons_append, List.length_cons, List.insertIdx_succ_cons, ih, List.cons_append]

/-- A pass writes the places of one code point, and the decoder puts it there: where the encoder has
passed, the output has the characters up to the code point, and beyond only those before it. -/
theorem decodeLoop_pass (valid : IsPoint point) (rest before : List Nat) (e : Encoder) (within : next ≤ point)
    (handled : (before.filter (· ≤ point) ++ rest.filter (· < point)).length = e.handled)
    (stands : index + e.delta = (point - next) * (e.handled + 1) + (before.filter (· ≤ point)).length)
    (enough : ((pass point e rest).2 ++ later).length ≤ fuel) :
    ∃ fuel' next' index', later.length ≤ fuel' ∧ next' ≤ point ∧
      ((before ++ rest).filter (· ≤ point)).length = (pass point e rest).1.handled ∧
      index' + (pass point e rest).1.delta = (point - next') * ((pass point e rest).1.handled + 1) +
        (pass point e rest).1.handled ∧
      decodeLoop fuel next index e.bias e.first (before.filter (· ≤ point) ++ rest.filter (· < point))
          ((pass point e rest).2 ++ later) =
        decodeLoop fuel' next' index' (pass point e rest).1.bias (pass point e rest).1.first
          ((before ++ rest).filter (· ≤ point)) later := by
  induction rest generalizing before e next index fuel with
  | nil =>
    simp only [pass, List.filter_nil, List.append_nil, List.nil_append] at *
    exact ⟨fuel, next, index, enough, within, handled, by rw [stands, handled], rfl⟩
  | cons n rest ih =>
    have moved : before ++ n :: rest = before ++ [n] ++ rest := by simp
    obtain less | rfl | greater := Nat.lt_trichotomy n point
    · have passed : pass point e (n :: rest) = pass point { e with delta := e.delta + 1 } rest := by
        rw [pass, if_pos less]
      have same : before.filter (· ≤ point) ++ (n :: rest).filter (· < point) =
          (before ++ [n]).filter (· ≤ point) ++ rest.filter (· < point) := by
        simp [less, Nat.le_of_lt less]
      rw [passed] at enough ⊢
      rw [same] at handled ⊢
      rw [moved]
      refine ih (before ++ [n]) { e with delta := e.delta + 1 } within handled ?_ enough
      simp only [List.filter_append, List.length_append]
      simp [Nat.le_of_lt less]
      omega
    · -- The difference leads to the place of the code point, from where the next one is counted.
      have passed : pass n e (n :: rest) =
          ((pass n ⟨e.next, 0, adapt e.delta (e.handled + 1) e.first, e.handled + 1, false⟩ rest).1,
            encodeNumber e.delta 36 e.bias ++
              (pass n ⟨e.next, 0, adapt e.delta (e.handled + 1) e.first, e.handled + 1, false⟩ rest).2) := by
        rw [pass, if_neg (Nat.lt_irrefl n), if_pos rfl]
      have skipped : (n :: rest).filter (· < n) = rest.filter (· < n) := by simp
      have put : (before ++ [n]).filter (· ≤ n) ++ rest.filter (· < n) =
          (before.filter (· ≤ n) ++ rest.filter (· < n)).insertIdx (before.filter (· ≤ n)).length n := by
        rw [insertIdx_length_append]
        simp
      rw [passed] at enough ⊢
      rw [skipped] at handled ⊢
      simp only [List.append_assoc] at enough ⊢
      obtain ⟨digit, digits, written⟩ := exists_cons_encodeNumber e.delta 36 e.bias
      obtain ⟨fuel, rfl⟩ : ∃ more, fuel = more + 1 :=
        Nat.exists_eq_add_one.mpr (Nat.lt_of_lt_of_le (by simp [written]) enough)
      have placed : (before.filter (· ≤ n)).length ≤ (before.filter (· ≤ n) ++ rest.filter (· < n)).length := by
        simp
      rw [decodeLoop_number valid within placed (by rw [handled]; exact stands), handled, ← put, moved]
      refine ih (before ++ [n]) ⟨e.next, 0, adapt e.delta (e.handled + 1) e.first, e.handled + 1, false⟩
        (Nat.le_refl n) ?_ ?_ ?_
      · rw [put, List.length_insertIdx_of_le_length (by simp), handled]
      · simp
      · simp only [written, List.cons_append, List.length_cons, List.length_append] at enough ⊢
        omega
    · have passed : pass point e (n :: rest) = pass point e rest := by
        rw [pass, if_neg (by omega), if_neg (by omega)]
      have same : before.filter (· ≤ point) ++ (n :: rest).filter (· < point) =
          (before ++ [n]).filter (· ≤ point) ++ rest.filter (· < point) := by
        simp [Nat.not_lt.mpr (Nat.le_of_lt greater), Nat.not_le.mpr greater]
      have same' : before.filter (· ≤ point) = (before ++ [n]).filter (· ≤ point) := by
        simp [Nat.not_le.mpr greater]
      rw [passed] at enough ⊢
      rw [same] at handled ⊢
      rw [moved]
      exact ih (before ++ [n]) e within handled (same' ▸ stands) enough

/-- The code points from the next one on, each once and in order. -/
structure IsAhead (points : List Nat) (next : Nat) (distinct : List Nat) : Prop where
  ascending : distinct.Pairwise (· < ·)
  mem_iff : ∀ n, n ∈ distinct ↔ n ∈ points ∧ next ≤ n

private theorem decodeLoop_encodePoints {points : List Nat} (valid : ∀ n ∈ points, IsPoint n) (distinct : List Nat)
    (e : Encoder) (ahead : IsAhead points e.next distinct) (within : next ≤ e.next)
    (handled : (points.filter (· < e.next)).length = e.handled)
    (stands : index + e.delta = (e.next - next) * (e.handled + 1))
    (enough : (encodePoints points e distinct).length ≤ fuel) :
    decodeLoop fuel next index e.bias e.first (points.filter (· < e.next)) (encodePoints points e distinct) =
      some points := by
  induction distinct generalizing e next index fuel with
  | nil =>
    have all : points.filter (· < e.next) = points := by
      refine List.filter_eq_self.mpr fun n member => decide_eq_true (Nat.lt_of_not_le fun reached => ?_)
      cases (ahead.mem_iff n).mpr ⟨member, reached⟩
    rw [all]
    unfold decodeLoop encodePoints
    rfl
  | cons point rest ih =>
    have ⟨member, reached⟩ := (ahead.mem_iff point).mp List.mem_cons_self
    have ⟨later, ascending⟩ := List.pairwise_cons.mp ahead.ascending
    have least (n : Nat) (here : n ∈ points) (before : e.next ≤ n) : n = point ∨ n ∈ rest :=
      List.mem_cons.mp ((ahead.mem_iff n).mpr ⟨here, before⟩)
    -- Between the code points there is none, so that the decoder's output is what the pass starts with.
    have started : points.filter (· < e.next) = points.filter (· < point) := by
      refine List.filter_congr fun n here => decide_eq_decide.mpr ⟨fun less => Nat.lt_of_lt_of_le less reached, ?_⟩
      intro less
      refine Nat.lt_of_not_le fun before => ?_
      obtain rfl | after := least n here before
      · exact Nat.lt_irrefl _ less
      · exact Nat.lt_asymm less (later n after)
    have ended : points.filter (· ≤ point) = points.filter (· < point + 1) :=
      List.filter_congr fun n _ => decide_eq_decide.mpr Nat.lt_succ_iff.symm
    have before : index + (e.delta + (point - e.next) * (e.handled + 1)) = (point - next) * (e.handled + 1) := by
      rw [← Nat.add_assoc, stands, ← Nat.add_mul]
      congr 1
      omega
    rw [encodePoints] at enough ⊢
    obtain ⟨fuel', next', index', enough', within', handled', stands', same⟩ :=
      decodeLoop_pass (valid point member) points [] { e with delta := e.delta + (point - e.next) * (e.handled + 1) }
        (Nat.le_trans within reached) (started ▸ handled) before enough
    simp only [List.nil_append, List.filter_nil] at same handled' stands'
    rw [started, same, ended]
    generalize pass point { e with delta := e.delta + (point - e.next) * (e.handled + 1) } points = passed at *
    obtain ⟨⟨_, delta, bias, count, first⟩, digits⟩ := passed
    refine ih ⟨point + 1, delta + 1, bias, count, first⟩ ⟨ascending, fun n => ⟨fun after => ?_, fun there => ?_⟩⟩
      (Nat.le_succ_of_le within') (ended ▸ handled') ?_ enough'
    · exact ⟨((ahead.mem_iff n).mp (List.mem_cons_of_mem _ after)).1, later n after⟩
    · obtain ⟨here, beyond⟩ := there
      obtain rfl | after := least n here (Nat.le_trans reached (Nat.le_of_succ_le beyond))
      · exact absurd beyond (Nat.lt_irrefl _)
      · exact after
    · have further : point + 1 - next' = point - next' + 1 := Nat.succ_sub within'
      rw [further, Nat.succ_mul, ← Nat.add_assoc, stands']
      rfl

theorem mem_pass {e : Encoder} {points : List Nat} {c : Char} (member : c ∈ (pass point e points).2) :
    ∃ d < 36, c = digitChar d := by
  induction points generalizing e with
  | nil => cases member
  | cons n rest ih =>
    rw [pass] at member
    split at member
    · exact ih member
    · split at member
      · obtain here | later := List.mem_append.mp member
        · exact mem_encodeNumber here
        · exact ih later
      · exact ih member

theorem mem_encodePoints {points distinct : List Nat} {e : Encoder} {c : Char}
    (member : c ∈ encodePoints points e distinct) : ∃ d < 36, c = digitChar d := by
  induction distinct generalizing e with
  | nil => cases member
  | cons point rest ih =>
    obtain here | later := List.mem_append.mp member
    · exact mem_pass here
    · exact ih later

/-- The characters of an ASCII form: those of the label that are ASCII, hyphens and digits. -/
theorem mem_encode {label : List Char} {c : Char} (member : c ∈ encode label) :
    c ∈ label ∧ c.toNat < 128 ∨ c = '-' ∨ ∃ d < 36, c = digitChar d := by
  unfold encode at member
  obtain front | digits := List.mem_append.mp member
  · obtain basic | hyphen := List.mem_append.mp front
    · exact .inl (by simpa using basic)
    · split at hyphen
      · cases hyphen
      · exact .inr (.inl (List.mem_singleton.mp hyphen))
  · exact .inr (.inr (mem_encodePoints digits))

theorem pairwise_eraseDups : ∀ {points : List Nat}, points.Pairwise (· ≤ ·) → points.eraseDups.Pairwise (· < ·)
  | [], _ => .nil
  | n :: rest, sorted => by
    have ⟨least, ascending⟩ := List.pairwise_cons.mp sorted
    have shorter := List.length_filter_le (fun m => !m == n) rest
    rw [List.eraseDups_cons]
    refine List.pairwise_cons.mpr ⟨fun m later => ?_, pairwise_eraseDups (ascending.filter _)⟩
    obtain ⟨here, other⟩ := List.mem_filter.mp (List.mem_eraseDups.mp later)
    have other : m ≠ n := by simpa using other
    exact Nat.lt_of_le_of_ne (least m here) other.symm
termination_by points => points.length

private theorem isAhead_distinct (points : List Nat) :
    IsAhead points 128 (((points.filter (128 ≤ ·)).mergeSort (· ≤ ·)).eraseDups) where
  ascending := by
    refine pairwise_eraseDups (List.Pairwise.imp of_decide_eq_true (List.pairwise_mergeSort ?_ ?_ _))
    · intro a b c first second
      exact decide_eq_true (Nat.le_trans (of_decide_eq_true first) (of_decide_eq_true second))
    · intro a b
      simpa using Nat.le_total a b
  mem_iff n := by
    rw [List.mem_eraseDups, List.mem_mergeSort, List.mem_filter, decide_eq_true_eq]

/-- The decoder takes what follows the last hyphen for digits, and what comes before it as it is. -/
theorem decode?_append {basic digits : List Char} (plain : '-' ∉ digits) (ascii : ∀ c ∈ basic, c.toNat < 128) :
    decode? (basic ++ (if basic.isEmpty then [] else ['-']) ++ digits) =
      (decodeLoop digits.length 128 0 72 true (basic.map Char.toNat) digits).map fun points =>
        points.map Char.ofNat := by
  have skipped (more : List Char) : (digits.reverse ++ more).dropWhile (· ≠ '-') = more.dropWhile (· ≠ '-') := by
    rw [List.dropWhile_append_of_pos]
    intro c member
    simpa using fun same : c = '-' => plain (same ▸ List.mem_reverse.mp member)
  have known : basic.any (fun c => decide (128 ≤ c.toNat)) = false := by
    simpa using ascii
  cases basic with
  | nil =>
    have cut : digits.reverse.dropWhile (· ≠ '-') = [] := by simpa using skipped []
    rw [decode?]
    simp only [List.isEmpty_nil, if_true, List.nil_append, cut, List.drop_nil, List.reverse_nil, List.any_nil,
      Bool.false_eq_true, if_false, List.drop_zero]
  | cons c rest =>
    have cut : (c :: rest ++ ['-'] ++ digits).reverse.dropWhile (· ≠ '-') = '-' :: (c :: rest).reverse := by
      rw [List.reverse_append, skipped, List.reverse_append]
      rfl
    have drop : (c :: rest ++ ['-'] ++ digits).drop ('-' :: (c :: rest).reverse).length = digits :=
      List.drop_left' (by simp)
    rw [decode?]
    simp only [List.isEmpty_cons, Bool.false_eq_true, if_false, cut, List.drop_succ_cons, List.drop_zero,
      List.reverse_reverse, known, drop]

/-- Every label is what its ASCII form writes. -/
theorem decode?_encode (label : List Char) : decode? (encode label) = some label := by
  have plain : '-' ∉ encodePoints (label.map Char.toNat) { handled := (label.filter (·.toNat < 128)).length }
      ((((label.map Char.toNat).filter (128 ≤ ·)).mergeSort (· ≤ ·)).eraseDups) := by
    intro member
    obtain ⟨d, small, same⟩ := mem_encodePoints member
    exact digitChar_ne_hyphen d small same.symm
  have valid : ∀ n ∈ label.map Char.toNat, IsPoint n := by
    intro n member
    obtain ⟨c, -, rfl⟩ := List.mem_map.mp member
    have range : c.toNat < 0xD800 ∨ 0xDFFF < c.toNat ∧ c.toNat < 0x110000 := c.valid
    unfold IsPoint
    omega
  have basic : (label.map Char.toNat).filter (· < 128) = (label.filter (·.toNat < 128)).map Char.toNat := by
    rw [List.filter_map]
    rfl
  have start : 0 + 0 = (128 - 128) * ((label.filter (·.toNat < 128)).length + 1) := by simp
  have read := decodeLoop_encodePoints valid _ { handled := (label.filter (·.toNat < 128)).length }
    (isAhead_distinct _) (Nat.le_refl 128) (by rw [basic, List.length_map]) start (Nat.le_refl _)
  rw [basic] at read
  rw [encode, decode?_append plain (by simp)]
  simp only [read, Option.map_some, List.map_map]
  simp [Function.comp_def]

end ProxyWatch.Url.Punycode
