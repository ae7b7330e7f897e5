import ProxyWatch.Proofs.Text.Lowercase

/-! A part of a text in lower case.

Only a capital sigma is lowered by what stands around it. So the lower case of a text holds that of a part of it,
unless a sigma of the part is at the end of a word there and not in the part alone, or the other way round. -/
namespace ProxyWatch.Text

/-- Whether a sigma ends a word, after the reversed characters before it. -/
def endsWord (before rest : List Char) : Bool := nextIsCased before && !nextIsCased rest

/-- The lower case of a character between what stands before and after it. -/
def lowerAt (before : List Char) (c : Char) (rest : List Char) : List Char :=
  if c = 'Σ' then [if endsWord before rest then 'ς' else 'σ'] else lowerChar c

/-- Lowers a part of a text, after the reversed characters before it and in front of those that follow it. -/
def lowerBetween (before after : List Char) : List Char → List Char
  | [] => []
  | c :: rest => lowerAt before c (rest ++ after) ++ lowerBetween (c :: before) after rest

/-- Every capital sigma of a part ends a word of the whole text exactly if it ends one of the part alone. -/
def KeepsSigmas (before after part : List Char) : Prop :=
  ∀ front rest, part = front ++ 'Σ' :: rest →
    endsWord (front.reverse ++ before) (rest ++ after) = endsWord front.reverse rest

variable {before after part rest front needle text : List Char} {c : Char}

theorem lowerAfter_cons : lowerAfter before (c :: rest) = lowerAt before c rest ++ lowerAfter (c :: before) rest := rfl

/-- Lower case goes part by part, each between its neighbours. -/
theorem lowerAfter_append (before part rest : List Char) :
    lowerAfter before (part ++ rest) =
      lowerBetween before rest part ++ lowerAfter (part.reverse ++ before) rest := by
  induction part generalizing before with
  | nil => rfl
  | cons c more ih =>
    rw [List.cons_append, lowerAfter_cons, ih, lowerBetween, List.append_assoc, List.reverse_cons,
      List.append_assoc, List.singleton_append]

theorem lowerAt_eq_iff {before' rest' : List Char} : lowerAt before c rest = lowerAt before' c rest' ↔
    (c = 'Σ' → endsWord before rest = endsWord before' rest') := by
  unfold lowerAt
  by_cases sigma : c = 'Σ'
  · rw [if_pos sigma, if_pos sigma]
    cases endsWord before rest <;> cases endsWord before' rest' <;> simp [sigma]
  · simp [sigma]

theorem length_lowerAt {before' rest' : List Char} :
    (lowerAt before c rest).length = (lowerAt before' c rest').length := by
  unfold lowerAt
  split <;> rfl

/-- What is lowered in a part of a text beside what is lowered in the part alone. The characters of the part that
have been lowered are in front. -/
theorem lowerBetween_eq_iff (front before after part : List Char) :
    lowerBetween (front ++ before) after part = lowerAfter front part ↔
      ∀ left right, part = left ++ 'Σ' :: right →
        endsWord (left.reverse ++ front ++ before) (right ++ after) = endsWord (left.reverse ++ front) right := by
  induction part generalizing front with
  | nil => simp [lowerBetween, lowerAfter]
  | cons c more ih =>
    have next := ih (c :: front)
    rw [List.cons_append] at next
    have split : lowerBetween (front ++ before) after (c :: more) = lowerAfter front (c :: more) ↔
        lowerAt (front ++ before) c (more ++ after) = lowerAt front c more ∧
          lowerBetween (c :: (front ++ before)) after more = lowerAfter (c :: front) more :=
      ⟨(List.append_inj · length_lowerAt), fun ⟨first, later⟩ => by
        rw [lowerBetween, lowerAfter_cons, first, later]⟩
    rw [split, lowerAt_eq_iff, next]
    constructor
    · rintro ⟨first, later⟩ left right same
      cases left with
      | nil =>
        obtain ⟨rfl, rfl⟩ := List.cons.inj same
        exact first rfl
      | cons d left =>
        obtain ⟨rfl, rfl⟩ := List.cons.inj same
        simpa using later left right rfl
    · intro all
      refine ⟨fun sigma => ?_, fun left right same => ?_⟩
      · subst sigma
        exact all [] more rfl
      · simpa using all (c :: left) right (by rw [same]; rfl)

/-- A part is lowered in a text as it is alone exactly if it keeps its sigmas there. -/
theorem lowerBetween_eq_lowercase_iff (before after part : List Char) :
    lowerBetween before after part = lowerAfter [] part ↔ KeepsSigmas before after part := by
  simpa [KeepsSigmas] using lowerBetween_eq_iff [] before after part

instance : Decidable (KeepsSigmas before after part) :=
  decidable_of_iff (lowerBetween before after part = lowerAfter [] part)
    (lowerBetween_eq_lowercase_iff before after part)

/-- What follows decides only if all of the text is passed over. -/
theorem nextIsCased_append (stops : ∃ c ∈ text, isCaseIgnorable c = false) (rest : List Char) :
    nextIsCased (text ++ rest) = nextIsCased text := by
  induction text with
  | nil =>
    obtain ⟨c, member, -⟩ := stops
    cases member
  | cons c more ih =>
    cases ignored : isCaseIgnorable c with
    | false => simp [nextIsCased, ignored]
    | true =>
      obtain ⟨d, member, stops⟩ := stops
      obtain rfl | member := List.mem_cons.mp member
      · rw [stops] at ignored
        cases ignored
      · simpa [nextIsCased, List.dropWhile_cons, ignored] using ih ⟨d, member, stops⟩

/-- A part keeps its sigmas anywhere if each of them has a character on either side of it, within the part, that is
not passed over. -/
theorem keepsSigmas_of_inner (inner : ∀ front rest, part = front ++ 'Σ' :: rest →
      (∃ c ∈ front, isCaseIgnorable c = false) ∧ ∃ c ∈ rest, isCaseIgnorable c = false) :
    KeepsSigmas before after part := by
  intro front rest same
  obtain ⟨⟨c, left, stops⟩, right⟩ := inner front rest same
  rw [endsWord, endsWord, nextIsCased_append ⟨c, List.mem_reverse.mpr left, stops⟩, nextIsCased_append right]

/-- Search finds what occurs without gaps. -/
theorem occursIn_iff : occursIn needle text = true ↔ needle <:+: text := by
  induction text with
  | nil => simp [occursIn]
  | cons c rest ih => rw [occursIn, Bool.or_eq_true, List.isPrefixOf_iff_prefix, ih, List.infix_cons_iff]

/-- Characters of ASCII are lowered one by one. -/
theorem lowerAfter_of_ascii (ascii : ∀ c ∈ text, c.toNat < 128) :
    lowerAfter before text = text.map Char.toLower := by
  induction text generalizing before with
  | nil => rfl
  | cons c rest ih =>
    have first : lowerAt before c rest = [c.toLower] := by
      have plain := ascii c List.mem_cons_self
      have other : c ≠ 'Σ' := by
        rintro rfl
        exact absurd plain (by decide)
      rw [lowerAt, if_neg other, lowerChar, if_pos plain]
    rw [lowerAfter_cons, first, ih fun d member => ascii d (List.mem_cons_of_mem c member)]
    rfl

end ProxyWatch.Text
