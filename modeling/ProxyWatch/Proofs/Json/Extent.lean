import Mathlib
import ProxyWatch.Proofs.Json.Ordered
import ProxyWatch.Text.Blank

/-! How much of a text is taken to read a value.

Every reader leaves the end of what it is given, and takes at least as many characters as the text that it makes of
them. So what an array or an object quotes is shorter than the array or the object itself. -/
namespace ProxyWatch.Json

/-- The end of a text that is left over, and the number of characters that were taken at least. -/
structure Takes (text rest : List Char) (size : Nat) : Prop where
  suffix : rest <:+ text
  length : size + rest.length ≤ text.length

namespace Takes
variable {text middle rest : List Char} {size more : Nat}

theorem refl (text : List Char) : Takes text text 0 := ⟨List.suffix_refl text, by omega⟩

theorem trans (first : Takes text middle size) (second : Takes middle rest more) : Takes text rest (size + more) := by
  have taken := first.length
  have further := second.length
  exact ⟨second.suffix.trans first.suffix, by omega⟩

theorem weaken (takes : Takes text rest size) (less : more ≤ size) : Takes text rest more := by
  have taken := takes.length
  exact ⟨takes.suffix, by omega⟩

private theorem of_suffix (suffix : rest <:+ text) : Takes text rest 0 := ⟨suffix, by simpa using suffix.length_le⟩

theorem append (front : List Char) (takes : Takes text rest size) : Takes (front ++ text) rest (front.length + size) :=
  trans ⟨List.suffix_append front text, by simp⟩ takes

theorem cons (c : Char) (takes : Takes text rest size) : Takes (c :: text) rest (size + 1) := by
  rw [Nat.add_comm]
  exact takes.append [c]

end Takes

namespace Source
variable {text rest : List Char}

theorem takes_skipBlank {after : List Char} (begun : skipBlank text = after) : Takes text after 0 :=
  Takes.of_suffix (begun ▸ List.dropWhile_suffix isBlank)

theorem takes_word (word : List Char) (begun : skipBlank text = word ++ rest) : Takes text rest 0 :=
  ((takes_skipBlank begun).trans ((Takes.refl rest).append word)).weaken (Nat.zero_le _)

theorem takes_bracketed {opening closing : Char} {behind : List Char} (begun : skipBlank text = opening :: behind)
    (inside : Takes (skipBlank behind) (closing :: rest) 0) : Takes text rest 0 := by
  have closed := inside.trans ((Takes.refl rest).cons closing)
  have opened := (takes_skipBlank rfl).trans closed
  exact ((takes_skipBlank begun).trans (opened.cons opening)).weaken (Nat.zero_le _)

/-- Whatever a piece is read from, no less was taken for it than for the pieces after it. -/
theorem takes_readPieces {pieces : List Piece} (read : readPieces text = some (pieces, rest)) :
    Takes text rest (pieces.length + 1) := by
  fun_induction readPieces text generalizing pieces rest with
  | case1 => cases read
  | case2 text =>
    cases read
    exact (Takes.refl text).cons '"'
  | case3 a b c d text ih =>
    simp only [Option.bind_eq_bind, Option.pure_def, Option.bind_eq_some_iff] at read
    obtain ⟨unit, -, ⟨others, after⟩, further, same⟩ := read
    cases same
    exact ((ih further).append ['\\', 'u', a, b, c, d]).weaken (by simp)
  | case4 c text _ ih =>
    simp only [Option.bind_eq_bind, Option.pure_def, Option.bind_eq_some_iff] at read
    obtain ⟨char, -, ⟨others, after⟩, further, same⟩ := read
    cases same
    exact ((ih further).append ['\\', c]).weaken (by simp)
  | case5 => cases read
  | case6 c text _ _ _ _ ih =>
    simp only [Option.bind_eq_bind, Option.pure_def, Option.bind_eq_some_iff] at read
    obtain ⟨⟨others, after⟩, further, same⟩ := read
    cases same
    exact (ih further).cons c

theorem length_joinPieces {pieces : List Piece} {shown : List Char} (joined : joinPieces pieces = some shown) :
    shown.length ≤ pieces.length := by
  fun_induction joinPieces pieces generalizing shown
  case case1 =>
    cases joined
    exact Nat.le_refl 0
  case case4 | case5 | case7 => cases joined
  all_goals
    rename_i ih
    simp only [Option.bind_eq_bind, Option.pure_def, Option.bind_eq_some_iff, Option.some.injEq] at joined
    obtain ⟨others, further, rfl⟩ := joined
    have fewer := ih further
    simp only [List.length_cons] at fewer ⊢
    omega

theorem takes_readString {shown : Option String} (read : readString text = some (shown, rest)) :
    Takes text rest 0 ∧ ∀ quoted, shown = some quoted → Takes text rest (quoted.length + 1) := by
  simp only [readString, Option.bind_eq_bind, Option.pure_def, Option.bind_eq_some_iff, Option.some.injEq] at read
  obtain ⟨⟨pieces, after⟩, piecesRead, same⟩ := read
  cases same
  have taken := takes_readPieces piecesRead
  refine ⟨taken.weaken (by omega), ?_⟩
  intro quoted joined
  obtain ⟨shown, shownJoined, rfl⟩ := Option.map_eq_some_iff.mp joined
  have fewer := length_joinPieces shownJoined
  exact taken.weaken (by simpa using fewer)

end Source

namespace Literal
variable {text rest : List Char}

theorem takes_readDigits (text : List Char) : Takes text (readDigits text).2 0 := by
  induction text with
  | nil => exact Takes.refl []
  | cons c text ih =>
    rw [readDigits]
    split
    · exact Takes.refl (c :: text)
    · exact (ih.cons c).weaken (by omega)

private theorem takes_readFraction {digits : List Nat} (read : readFraction text = some (digits, rest)) :
    Takes text rest 0 := by
  unfold readFraction at read
  split at read
  · rename_i text
    split at read
    · cases read
    · have taken := takes_readDigits text
      rw [Option.some.inj read] at taken
      exact (taken.cons '.').weaken (by omega)
  · cases read
    exact Takes.refl text

theorem takes_readExponentDigits {negative : Bool} {exponent : Option Int}
    (read : readExponentDigits negative text = some (exponent, rest)) : Takes text rest 0 := by
  have taken := takes_readDigits text
  unfold readExponentDigits at read
  split at read
  · cases read
  · rename_i same
    cases read
    rw [same] at taken
    exact taken

private theorem takes_readExponent {exponent : Option Int} (read : readExponent text = some (exponent, rest)) :
    Takes text rest 0 := by
  unfold readExponent at read
  split at read
  · rename_i c text
    split at read
    · split at read
      · exact (((takes_readExponentDigits read).cons '+').cons c).weaken (by omega)
      · exact (((takes_readExponentDigits read).cons '-').cons c).weaken (by omega)
      · exact ((takes_readExponentDigits read).cons c).weaken (by omega)
    · cases read
      exact Takes.refl (c :: text)
  · cases read
    exact Takes.refl []

private theorem takes_read {literal : Literal} (read : Literal.read text = some (literal, rest)) :
    Takes text rest 0 := by
  unfold Literal.read at read
  split at read
  rename_i negative unsigned signed
  have sign : Takes text unsigned 0 := by
    split at signed
    · cases signed
      exact ((Takes.refl unsigned).cons '-').weaken (by omega)
    · cases signed
      exact Takes.refl text
  have digits := takes_readDigits unsigned
  split at read
  · cases read
  · cases read
  · rename_i whole behind _ _ shown
    simp only [Option.bind_eq_bind, Option.pure_def, Option.bind_eq_some_iff] at read
    obtain ⟨⟨fraction, after⟩, fractionRead, ⟨exponent, last⟩, exponentRead, same⟩ := read
    cases same
    rw [shown] at digits
    exact sign.trans (digits.trans ((takes_readFraction fractionRead).trans (takes_readExponent exponentRead)))

end Literal

namespace Source
variable {text rest : List Char}

/-- The number of characters that a tree is a quotation of. -/
def quoted : Source → Nat
  | .string (some text) => text.length
  | _ => 0

mutual

theorem takes_readValue : ∀ (fuel : Nat) {text rest : List Char} {source : Source},
    readValue fuel text = some (source, rest) → Takes text rest source.quoted
  | 0, text, rest, source, read => by
    rw [readValue] at read
    cases read
  | fuel + 1, text, rest, source, read => by
    rw [readValue] at read
    split at read
    · rename_i begun
      cases read
      exact takes_word ['n', 'u', 'l', 'l'] begun
    · rename_i begun
      cases read
      exact takes_word ['t', 'r', 'u', 'e'] begun
    · rename_i begun
      cases read
      exact takes_word ['f', 'a', 'l', 's', 'e'] begun
    · rename_i begun
      obtain ⟨⟨shown, after⟩, stringRead, same⟩ := Option.map_eq_some_iff.mp read
      cases same
      obtain ⟨taken, whole⟩ := takes_readString stringRead
      cases shown with
      | none => exact ((takes_skipBlank begun).trans (taken.cons '"')).weaken (Nat.zero_le _)
      | some text =>
        have all := (takes_skipBlank begun).trans ((whole text rfl).cons '"')
        exact all.weaken (by rw [quoted]; omega)
    · rename_i behind begun
      split at read
      · rename_i closed
        cases read
        have inside : Takes (skipBlank behind) (']' :: rest) 0 := closed ▸ Takes.refl _
        exact takes_bracketed begun inside
      · obtain ⟨⟨items, after⟩, itemsRead, same⟩ := Option.map_eq_some_iff.mp read
        cases same
        exact takes_bracketed begun (takes_readItems fuel itemsRead).1
    · rename_i behind begun
      split at read
      · rename_i closed
        cases read
        have inside : Takes (skipBlank behind) ('\x7d' :: rest) 0 := closed ▸ Takes.refl _
        exact takes_bracketed begun inside
      · obtain ⟨⟨members, after⟩, membersRead, same⟩ := Option.map_eq_some_iff.mp read
        cases same
        exact takes_bracketed begun (takes_readMembers fuel membersRead).1
    · rename_i begun
      split at read
      · obtain ⟨⟨literal, after⟩, literalRead, same⟩ := Option.map_eq_some_iff.mp read
        cases same
        exact (takes_skipBlank begun).trans (Literal.takes_read literalRead)
      · cases read
    · cases read

theorem takes_readItems : ∀ (fuel : Nat) {text rest : List Char} {items : List Source},
    readItems fuel text = some (items, rest) →
      Takes text (']' :: rest) 0 ∧ ∀ item ∈ items, Takes text (']' :: rest) item.quoted
  | 0, text, rest, items, read => by
    rw [readItems] at read
    cases read
  | fuel + 1, text, rest, items, read => by
    rw [readItems] at read
    split at read
    · cases read
    rename_i first behind firstRead
    have taken := takes_readValue fuel firstRead
    split at read
    · rename_i closed
      cases read
      have whole := taken.trans (takes_skipBlank closed)
      refine ⟨whole.weaken (Nat.zero_le _), ?_⟩
      intro item member
      obtain rfl := List.mem_singleton.mp member
      exact whole
    · rename_i more goesOn
      obtain ⟨⟨others, after⟩, othersRead, same⟩ := Option.map_eq_some_iff.mp read
      cases same
      have front := taken.trans ((takes_skipBlank goesOn).trans ((Takes.refl more).cons ','))
      obtain ⟨later, each⟩ := takes_readItems fuel othersRead
      refine ⟨(front.trans later).weaken (Nat.zero_le _), ?_⟩
      intro item member
      rcases List.mem_cons.mp member with rfl | other
      · exact (front.trans later).weaken (by omega)
      · exact (front.trans (each item other)).weaken (by omega)
    · cases read

theorem takes_readMembers : ∀ (fuel : Nat) {text rest : List Char} {members : List (Option String × Source)},
    readMembers fuel text = some (members, rest) →
      Takes text ('\x7d' :: rest) 0 ∧ ∀ member ∈ members, Takes text ('\x7d' :: rest) member.2.quoted
  | 0, text, rest, members, read => by
    rw [readMembers] at read
    cases read
  | fuel + 1, text, rest, members, read => by
    rw [readMembers] at read
    split at read
    case h_2 => cases read
    rename_i opened begun
    split at read
    · cases read
    rename_i name named nameRead
    split at read
    case h_2 => cases read
    rename_i behind divided
    split at read
    · cases read
    rename_i first after firstRead
    -- the name and the colon make what is in front of the value
    have front := (takes_skipBlank begun).trans ((takes_readString nameRead).1.cons '"')
    have divider := front.trans ((takes_skipBlank divided).trans ((Takes.refl behind).cons ':'))
    have taken := divider.trans (takes_readValue fuel firstRead)
    split at read
    · rename_i closed
      cases read
      have whole := taken.trans (takes_skipBlank closed)
      refine ⟨whole.weaken (Nat.zero_le _), ?_⟩
      intro member among
      obtain rfl := List.mem_singleton.mp among
      exact whole.weaken (by simp)
    · rename_i more goesOn
      obtain ⟨⟨others, last⟩, othersRead, same⟩ := Option.map_eq_some_iff.mp read
      cases same
      have comma := taken.trans ((takes_skipBlank goesOn).trans ((Takes.refl more).cons ','))
      obtain ⟨later, each⟩ := takes_readMembers fuel othersRead
      refine ⟨(comma.trans later).weaken (Nat.zero_le _), ?_⟩
      intro member among
      rcases List.mem_cons.mp among with rfl | other
      · exact (comma.trans later).weaken (by dsimp only; omega)
      · exact (comma.trans (each member other)).weaken (by omega)
    · cases read

end

private theorem exists_brackets {fuel : Nat} {source child : Source} (read : readValue fuel text = some (source, rest))
    (member : child ∈ source.children) :
    ∃ opening closing behind, skipBlank text = opening :: behind ∧
      Takes (skipBlank behind) (closing :: rest) child.quoted ∧
      Text.isBlank opening = false ∧ Text.isBlank closing = false := by
  cases fuel with
  | zero =>
    rw [readValue] at read
    cases read
  | succ fuel =>
    rw [readValue] at read
    split at read
    case h_5 behind begun =>
      split at read
      · cases read
        cases member
      · obtain ⟨⟨items, after⟩, itemsRead, same⟩ := Option.map_eq_some_iff.mp read
        cases same
        exact ⟨'[', ']', behind, begun, (takes_readItems fuel itemsRead).2 child member, rfl, rfl⟩
    case h_6 behind begun =>
      split at read
      · cases read
        cases member
      · obtain ⟨⟨members, after⟩, membersRead, same⟩ := Option.map_eq_some_iff.mp read
        cases same
        obtain ⟨pair, listed, rfl⟩ := List.mem_map.mp member
        exact ⟨'\x7b', '\x7d', behind, begun, (takes_readMembers fuel membersRead).2 pair listed, rfl, rfl⟩
    case h_1 | h_2 | h_3 =>
      cases read
      cases member
    case h_4 =>
      obtain ⟨_, -, same⟩ := Option.map_eq_some_iff.mp read
      cases same
      cases member
    case h_7 =>
      split at read
      · obtain ⟨_, -, same⟩ := Option.map_eq_some_iff.mp read
        cases same
        cases member
      · cases read
    case h_8 => cases read

theorem isBlank_text {c : Char} (blank : isBlank c = true) : Text.isBlank c = true := by
  simp only [isBlank, Bool.or_eq_true, decide_eq_true_eq] at blank
  rcases blank with ((rfl | rfl) | rfl) | rfl <;> rfl

private theorem toList_trim {whole : String} {before core after : List Char} {first last : Char}
    (split : whole.toList = before ++ (first :: core ++ [last]) ++ after)
    (front : ∀ c ∈ before, Text.isBlank c = true) (back : ∀ c ∈ after, Text.isBlank c = true)
    (firstInk : Text.isBlank first = false) (lastInk : Text.isBlank last = false) :
    (Text.trim whole).toList = first :: core ++ [last] := by
  have frontless : whole.toList.dropWhile Text.isBlank = first :: core ++ [last] ++ after := by
    rw [split, List.append_assoc, List.dropWhile_append_of_pos front]
    simp [firstInk]
  rw [Text.trim, String.toList_ofList, frontless, List.reverse_append,
    List.dropWhile_append_of_pos fun c member => back c (List.mem_reverse.mp member)]
  simp [lastInk]

/-- What a child of a tree quotes is shorter than the text that the tree is read from, without blanks around it. -/
theorem quoted_lt_trim {whole : String} {source child : Source} (parsed : parse? whole = some source)
    (member : child ∈ source.children) : child.quoted < (Text.trim whole).length := by
  obtain ⟨rest, read, ended⟩ : ∃ rest, readValue (2 * whole.toList.length + 2) whole.toList = some (source, rest) ∧
      skipBlank rest = [] := by
    simp only [parse?] at parsed
    split at parsed
    · rename_i found rest read
      split at parsed
      · rename_i ended
        cases parsed
        exact ⟨rest, read, List.isEmpty_iff.mp ended⟩
      · cases parsed
    · cases parsed
  obtain ⟨opening, closing, behind, begun, ⟨⟨used, within⟩, taken⟩, openingInk, closingInk⟩ :=
    exists_brackets read member
  have gap : behind.takeWhile isBlank ++ skipBlank behind = behind := List.takeWhile_append_dropWhile
  have front : whole.toList.takeWhile isBlank ++ skipBlank whole.toList = whole.toList :=
    List.takeWhile_append_dropWhile
  have split : whole.toList = whole.toList.takeWhile isBlank ++
      (opening :: (behind.takeWhile isBlank ++ used) ++ [closing]) ++ rest := by
    conv_lhs => rw [← front, begun, ← gap, ← within]
    simp
  have core := toList_trim split (fun c among => isBlank_text (List.mem_takeWhile_imp among))
    (fun c among => isBlank_text (List.dropWhile_eq_nil_iff.mp ended c among)) openingInk closingInk
  rw [← String.length_toList, core]
  rw [← within] at taken
  simp only [List.length_append, List.length_cons] at taken ⊢
  omega

end Source
end ProxyWatch.Json
