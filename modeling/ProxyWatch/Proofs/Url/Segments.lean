import ProxyWatch.Proofs.Text.Lowercase
import ProxyWatch.Proofs.Url.Percent
import ProxyWatch.Url.Edit

/-! What a path goes on from, and what a text put on it becomes. -/
namespace ProxyWatch.Url

/-- The segments that a path goes on from. The empty segment at its end gives way, and then the root's. -/
def stem (path : List String) : List String :=
  if dropEmptyLast path = [""] then [] else dropEmptyLast path

/-- A text as far as it is put on a path. -/
def kept (text : String) : List Char := text.toList.filter fun c => c != '\t' && c != '\n' && c != '\r'

/-- What is encoded in a text that is put on a path. -/
def segmentSet (special : Bool) : EncodeSet := if special then .specialPathSegment else .pathSegment

variable {special : Bool} {path : List String} {text : String} {chars : List Char} {c : Char}

/-- A path goes on from all its segments but an empty one at its end. Only two empty ones both go. -/
theorem stem_cases (path : List String) :
    path = stem path ∨ path = stem path ++ [""] ∨ path = ["", ""] ∧ stem path = [] := by
  unfold stem dropEmptyLast
  by_cases ended : 2 ≤ path.length ∧ path.getLast? = some ""
  · rw [if_pos ended]
    have whole : path = path.dropLast ++ [""] := by
      obtain ⟨front, rfl⟩ := List.getLast?_eq_some_iff.mp ended.2
      simp
    split
    · rename_i root
      exact .inr (.inr ⟨by rw [whole, root]; rfl, rfl⟩)
    · exact .inr (.inl whole)
  · rw [if_neg ended]
    split
    · rename_i root
      exact .inr (.inl root)
    · exact .inl rfl

theorem kept_eq_iff : kept text = text.toList ↔ ∀ c ∈ text.toList, c ≠ '\t' ∧ c ≠ '\n' ∧ c ≠ '\r' := by
  simp [kept, List.filter_eq_self, and_assoc]

theorem percent_mem_segmentSet (special : Bool) : '%' ∈ (segmentSet special).members := by
  cases special <;> decide

/-- What stands in a segment neither ends it nor ends the path. -/
theorem ne_of_mem_segment (member : c ∈ percentEncode (segmentSet special) chars) :
    c ≠ '/' ∧ c ≠ '?' ∧ c ≠ '#' := by
  have out : ∀ d ∈ ['/', '?', '#'], ¬ (segmentSet special).Keeps d ∧ d ∉ escapes := by
    cases special <;> decide
  have other (d : Char) (ends : d ∈ ['/', '?', '#']) : c ≠ d := by
    rintro rfl
    exact not_mem_percentEncode (out c ends).1 (out c ends).2 member
  exact ⟨other _ (by simp), other _ (by simp), other _ (by simp)⟩

theorem isSingleDot_iff :
    isSingleDot (String.ofList chars) = true ↔ chars = ['.'] ∨ chars.map Char.toLower = ['%', '2', 'e'] := by
  simp [isSingleDot, ← String.toList_inj]

theorem isDoubleDot_iff :
    isDoubleDot (String.ofList chars) = true ↔ chars.map Char.toLower ∈
      [['.', '.'], ['.', '%', '2', 'e'], ['%', '2', 'e', '.'], ['%', '2', 'e', '%', '2', 'e']] := by
  simp [isDoubleDot, ← String.toList_inj]

theorem percentDecode_of_dot {more : List Char} (lowered : chars.map Char.toLower = '.' :: more) :
    ∃ rest, rest.map Char.toLower = more ∧ percentDecode chars = 0x2E :: percentDecode rest := by
  obtain ⟨dot, rest, rfl, first, later⟩ := List.map_eq_cons_iff.mp lowered
  obtain rfl := Text.eq_of_toLower first (by decide)
  exact ⟨rest, later, percentDecode_cons (by decide) rest⟩

theorem percentDecode_of_encoded_dot {more : List Char}
    (lowered : chars.map Char.toLower = '%' :: '2' :: 'e' :: more) :
    ∃ rest, rest.map Char.toLower = more ∧ percentDecode chars = 0x2E :: percentDecode rest := by
  obtain ⟨percent, _, rfl, first, lowered⟩ := List.map_eq_cons_iff.mp lowered
  obtain ⟨high, _, rfl, second, lowered⟩ := List.map_eq_cons_iff.mp lowered
  obtain ⟨low, rest, rfl, third, later⟩ := List.map_eq_cons_iff.mp lowered
  obtain rfl := Text.eq_of_toLower first (by decide)
  obtain rfl := Text.eq_of_toLower second (by decide)
  refine ⟨rest, later, ?_⟩
  obtain same | same := Text.toNat_of_toLower third
  · obtain rfl : low = 'e' := Char.toNat_inj.mp same
    rfl
  · obtain rfl : low = 'E' := Char.toNat_inj.mp (by simpa using same)
    rfl

private theorem percentDecode_of_isSingleDot (dot : isSingleDot (String.ofList chars) = true) :
    percentDecode chars = Utf8.encode ['.'] := by
  obtain rfl | lowered := isSingleDot_iff.mp dot
  · rfl
  · obtain ⟨rest, later, told⟩ := percentDecode_of_encoded_dot lowered
    obtain rfl := List.map_eq_nil_iff.mp later
    exact told

private theorem percentDecode_of_isDoubleDot (dots : isDoubleDot (String.ofList chars) = true) :
    percentDecode chars = Utf8.encode ['.', '.'] := by
  have two (rest : List Char) (later : rest.map Char.toLower = ['.'] ∨ rest.map Char.toLower = ['%', '2', 'e'])
      (told : percentDecode chars = 0x2E :: percentDecode rest) :
      percentDecode chars = Utf8.encode ['.', '.'] := by
    obtain lowered | lowered := later
    · obtain ⟨last, ended, last_⟩ := percentDecode_of_dot lowered
      obtain rfl := List.map_eq_nil_iff.mp ended
      rw [told, last_]
      rfl
    · obtain ⟨last, ended, last_⟩ := percentDecode_of_encoded_dot lowered
      obtain rfl := List.map_eq_nil_iff.mp ended
      rw [told, last_]
      rfl
  obtain lowered | lowered | lowered | lowered : chars.map Char.toLower = ['.', '.'] ∨
      chars.map Char.toLower = ['.', '%', '2', 'e'] ∨ chars.map Char.toLower = ['%', '2', 'e', '.'] ∨
      chars.map Char.toLower = ['%', '2', 'e', '%', '2', 'e'] := by
    simpa using isDoubleDot_iff.mp dots
  · obtain ⟨rest, later, told⟩ := percentDecode_of_dot lowered
    exact two rest (.inl later) told
  · obtain ⟨rest, later, told⟩ := percentDecode_of_dot lowered
    exact two rest (.inr later) told
  · obtain ⟨rest, later, told⟩ := percentDecode_of_encoded_dot lowered
    exact two rest (.inl later) told
  · obtain ⟨rest, later, told⟩ := percentDecode_of_encoded_dot lowered
    exact two rest (.inr later) told

/-- What is encoded stands for a place only where the text itself does. -/
theorem isSingleDot_percentEncode {set : EncodeSet} (escaped : '%' ∈ set.members)
    (dot : isSingleDot (String.ofList (percentEncode set chars)) = true) : chars = ['.'] :=
  eq_of_percentDecode escaped (percentDecode_of_isSingleDot dot)

theorem isDoubleDot_percentEncode {set : EncodeSet} (escaped : '%' ∈ set.members)
    (dots : isDoubleDot (String.ofList (percentEncode set chars)) = true) : chars = ['.', '.'] :=
  eq_of_percentDecode escaped (percentDecode_of_isDoubleDot dots)

/-- A text that does not stand for a place becomes the next segment, from which it is read back. -/
theorem pushSegment_percentEncode (special : Bool) (path : List String) (isLast : Bool)
    (single : chars ≠ ['.']) (double : chars ≠ ['.', '.']) :
    pushSegment false path (String.ofList (percentEncode (segmentSet special) chars)) isLast =
      path ++ [String.ofList (percentEncode (segmentSet special) chars)] := by
  have escaped := percent_mem_segmentSet special
  rw [pushSegment, if_neg fun dots => double (isDoubleDot_percentEncode escaped dots),
    if_neg fun dot => single (isSingleDot_percentEncode escaped dot)]

theorem addSegment_of_ne (single : text ≠ ".") (double : text ≠ "..") :
    addSegment special path text = pushSegment false (if path = [""] then [] else path)
      (String.ofList (percentEncode (segmentSet special) (kept text))) true := by
  rw [addSegment, if_neg (not_or.mpr ⟨single, double⟩)]
  rfl

/-- What putting a text on a path does: texts that stand for a place do not become a segment, even where
they do so only once their tabs and line breaks are dropped. -/
theorem addSegment_eq (other : path ≠ [""]) :
    addSegment special path text =
      if text = "." ∨ text = ".." then path
      else if kept text = ['.', '.'] then path.dropLast ++ [""]
      else if kept text = ['.'] then path ++ [""]
      else path ++ [String.ofList (percentEncode (segmentSet special) (kept text))] := by
  by_cases dots : text = "." ∨ text = ".."
  · rw [addSegment, if_pos dots, if_pos dots]
  · rw [addSegment_of_ne (fun dot => dots (.inl dot)) (fun two => dots (.inr two)), if_neg dots, if_neg other]
    have written (places : List Char) (only : ∀ c ∈ places, c = '.') :
        percentEncode (segmentSet special) places = places := by
      refine percentEncode_of_keeps fun c member => ?_
      rw [only c member]
      cases special <;> decide
    by_cases double : kept text = ['.', '.']
    · rw [if_pos double, double, written _ (by simp), pushSegment, if_pos (isDoubleDot_iff.mpr (by decide))]
      rfl
    by_cases single : kept text = ['.']
    · rw [if_neg double, if_pos single, single, written _ (by simp), pushSegment,
        if_neg (mt isDoubleDot_iff.mp (by decide)), if_pos (isSingleDot_iff.mpr (.inl rfl))]
      rfl
    · rw [if_neg double, if_neg single, pushSegment_percentEncode _ _ _ single double]

/-- Letters and digits, and at least one. -/
def IsWord (text : String) : Prop := text ≠ "" ∧ ∀ c ∈ text.toList, c.isAlphanum = true

instance (text : String) : Decidable (IsWord text) := inferInstanceAs (Decidable (_ ∧ ∀ c ∈ text.toList, _))

theorem bounds_of_isAlphanum (alphanum : c.isAlphanum = true) : 0x20 < c.toNat ∧ c.toNat < 0x7F := by
  obtain letter | digit := Bool.or_eq_true_iff.mp alphanum
  · obtain upper | lower := Bool.or_eq_true_iff.mp letter
    · obtain ⟨low, high⟩ : 65 ≤ c.toNat ∧ c.toNat ≤ 90 := of_decide_eq_true upper
      omega
    · obtain ⟨low, high⟩ := Bool.and_eq_true_iff.mp lower
      have low : 97 ≤ c.toNat := of_decide_eq_true low
      have high : c.toNat ≤ 122 := of_decide_eq_true high
      omega
  · obtain ⟨low, high⟩ := Bool.and_eq_true_iff.mp digit
    have low : 48 ≤ c.toNat := of_decide_eq_true low
    have high : c.toNat ≤ 57 := of_decide_eq_true high
    omega

theorem keeps_of_isAlphanum {set : EncodeSet} (marks : ∀ d ∈ set.members, d.isAlphanum = false)
    (alphanum : c.isAlphanum = true) : set.Keeps c := by
  obtain ⟨low, high⟩ := bounds_of_isAlphanum alphanum
  exact ⟨Nat.le_of_lt low, high, fun member => by simp [marks c member] at alphanum⟩

theorem addSegment_word (word : IsWord text) (path : List String) :
    addSegment special path text = (if path = [""] then [] else path) ++ [text] := by
  obtain ⟨-, alphanum⟩ := word
  have marks : ∀ d ∈ (segmentSet special).members, d.isAlphanum = false := by cases special <;> decide
  have whole : kept text = text.toList := by
    have other (mark : Char) (outside : mark.isAlphanum = false) (c : Char) (member : c ∈ text.toList) : c ≠ mark := by
      rintro rfl
      exact absurd (alphanum c member) (by simp [outside])
    exact kept_eq_iff.mpr fun c member =>
      ⟨other '\t' (by decide) c member, other '\n' (by decide) c member, other '\r' (by decide) c member⟩
  have dotless : '.' ∉ text.toList := fun member => absurd (alphanum _ member) (by decide)
  have other (dots : String) (dotted : '.' ∈ dots.toList) : text ≠ dots := fun same => dotless (same ▸ dotted)
  have same : percentEncode (segmentSet special) (kept text) = text.toList := by
    rw [whole]
    exact percentEncode_of_keeps fun c member => keeps_of_isAlphanum marks (alphanum c member)
  rw [addSegment_of_ne (other _ (by simp)) (other _ (by simp)), pushSegment_percentEncode, same, String.ofList_toList]
  · exact fun dot => dotless (by rw [← whole, dot]; decide)
  · exact fun dots => dotless (by rw [← whole, dots]; decide)

theorem append_word_ne_root (word : IsWord text) (path : List String) : path ++ [text] ≠ [""] := by
  intro root
  obtain ⟨-, same⟩ : path = [] ∧ text = "" := by simpa [List.append_eq_singleton_iff] using root
  exact word.1 same

/-- Words go on from a path's stem. -/
theorem foldl_addSegment_words (special : Bool) (path : List String) {first : String} {words : List String}
    (word : IsWord first) (all : ∀ word ∈ words, IsWord word) :
    (first :: words).foldl (addSegment special) (dropEmptyLast path) = stem path ++ first :: words := by
  have further (front : List String) (other : front ≠ [""]) :
      words.foldl (addSegment special) front = front ++ words := by
    induction words generalizing front with
    | nil => simp
    | cons next rest ih =>
      have isWord := all next List.mem_cons_self
      rw [List.foldl_cons, addSegment_word isWord, if_neg other, ih (fun w later => all w (.tail _ later)) _
        (append_word_ne_root isWord front)]
      simp
  rw [List.foldl_cons, addSegment_word word, further _ (append_word_ne_root word _)]
  simp [stem]

end ProxyWatch.Url
