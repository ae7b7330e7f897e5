import ProxyWatch.Log.Buffer
import ProxyWatch.Proofs.Text.Parts

/-! What a search finds of the texts that are shown.

Texts are searched in lower case, and lower case goes by whole texts: what is copied from a text is found in it
unless a capital sigma at one of its ends is lowered otherwise than where it was copied from. -/
namespace ProxyWatch.LogEntry
open Text (KeepsSigmas lowerAfter lowerBetween lowercase occursIn isCaseIgnorable)

/-- The texts of an entry that are shown and searched. -/
inductive Shows (entry : LogEntry) : String → Prop where
  | message {text : String} (shown : entry.displayMessage = some text) : Shows entry text
  | level : Shows entry entry.levelText
  | target {text : String} (shown : entry.target = some text) : Shows entry text

variable {entry : LogEntry} {text query : String} {before after : List Char}

theorem isMatch_of_occursIn (shown : entry.Shows text)
    (found : occursIn (lowercase query) (lowercase text) = true) : entry.isMatch query = true := by
  cases shown with
  | message shown => simp [isMatch, shown, found]
  | level => simp [isMatch, found]
  | target shown => simp [isMatch, shown, found]

theorem lowercase_of_occurs (occurs : text.toList = before ++ query.toList ++ after) :
    lowercase text = lowerBetween [] (query.toList ++ after) before ++
      lowerBetween before.reverse after query.toList ++
      lowerAfter (query.toList.reverse ++ before.reverse) after := by
  rw [lowercase, occurs, List.append_assoc, Text.lowerAfter_append, Text.lowerAfter_append, List.append_nil,
    List.append_assoc]

private theorem isMatch_of_keepsSigmas (shown : entry.Shows text)
    (occurs : text.toList = before ++ query.toList ++ after)
    (keeps : KeepsSigmas before.reverse after query.toList) : entry.isMatch query = true := by
  refine isMatch_of_occursIn shown (Text.occursIn_iff.mpr ?_)
  have same : lowerBetween before.reverse after query.toList = lowercase query :=
    (Text.lowerBetween_eq_lowercase_iff ..).mpr keeps
  rw [lowercase_of_occurs occurs, same]
  exact List.infix_append ..

/-- The words that levels are read from, in lower case. -/
def levelWords : List String := ["trace", "debug", "info", "warn", "warning", "error"]

/-- A known level is read from a word that begins with its label, apart from case. -/
theorem level_cases (known : entry.level ≠ .other) : entry.levelText.map Char.toLower ∈ levelWords ∧
    entry.level.label.toList.map Char.toLower <+: entry.levelText.toList.map Char.toLower := by
  have labels : ∀ word ∈ levelWords, (LogLevel.parse word).label.toList.map Char.toLower <+: word.toList := by
    decide +kernel
  have member : entry.levelText.map Char.toLower ∈ levelWords := by
    unfold level LogLevel.parse at known
    split at known <;> simp_all [levelWords]
  have same : entry.level = LogLevel.parse (entry.levelText.map Char.toLower) := by
    have again : (entry.levelText.map Char.toLower).map Char.toLower = entry.levelText.map Char.toLower := by
      simp only [String.map_map, Function.comp_def, Text.toLower_toLower]
    rw [level, LogLevel.parse, LogLevel.parse, again]
  rw [same, ← String.toList_map (s := entry.levelText)]
  exact ⟨member, labels _ member⟩

private theorem isMatch_of_label (known : entry.level ≠ .other) (occurs : query.toList <:+: entry.level.label.toList) :
    entry.isMatch query = true := by
  obtain ⟨member, begins⟩ := level_cases known
  have letters : ∀ c ∈ entry.levelText.toList, c.toNat < 128 := by
    have lowered : ∀ word ∈ levelWords, word.toList.all (·.toNat < 128) = true := by decide
    intro c among
    have small := List.all_eq_true.mp (lowered _ member) c.toLower (by simpa using ⟨c, among, rfl⟩)
    rw [decide_eq_true_eq] at small
    obtain same | same := Text.toNat_of_toLower (rfl : c.toLower = c.toLower) <;> omega
  have labels (level : LogLevel) : ∀ c ∈ level.label.toList, c.toNat < 128 := by
    have ascii : level.label.toList.all (·.toNat < 128) = true := by cases level <;> decide
    simpa using ascii
  refine isMatch_of_occursIn .level (Text.occursIn_iff.mpr ?_)
  rw [lowercase, lowercase, Text.lowerAfter_of_ascii fun c among => labels _ c (occurs.subset among),
    Text.lowerAfter_of_ascii letters]
  exact (occurs.map Char.toLower).trans begins.isInfix

/-- What is found of a text that is shown. A part of it is lowered, where it stands, as the query that was copied
from there exactly if it keeps its sigmas; the entry is then found, by itself and in any buffer. All sigmas that
are inside of the part are kept, and so is the label that stands for a known level. -/
theorem isMatch_of_shown (shown : entry.Shows text) (occurs : text.toList = before ++ query.toList ++ after) :
    (lowercase text = lowerBetween [] (query.toList ++ after) before ++
        lowerBetween before.reverse after query.toList ++
        lowerAfter (query.toList.reverse ++ before.reverse) after ∧
      (lowerBetween before.reverse after query.toList = lowercase query ↔
        KeepsSigmas before.reverse after query.toList)) ∧
    (KeepsSigmas before.reverse after query.toList → entry.isMatch query = true ∧
      ∀ buffer : EventBuffer, entry ∈ buffer.entries → entry ∈ buffer.search query) ∧
    ((∀ front rest, query.toList = front ++ 'Σ' :: rest →
        (∃ c ∈ front, isCaseIgnorable c = false) ∧ ∃ c ∈ rest, isCaseIgnorable c = false) →
      KeepsSigmas before.reverse after query.toList) ∧
    (entry.level ≠ .other → ∀ word : String, word.toList <:+: entry.level.label.toList →
      entry.isMatch word = true) := by
  refine ⟨⟨lowercase_of_occurs occurs, Text.lowerBetween_eq_lowercase_iff ..⟩, fun keeps => ?_,
    Text.keepsSigmas_of_inner, fun known word => isMatch_of_label known⟩
  have found := isMatch_of_keepsSigmas shown occurs keeps
  exact ⟨found, fun buffer member => List.mem_filter.mpr ⟨member, found⟩⟩

/-- Sigmas in the middle of what was copied, and a final one at its end and the text's. -/
theorem isMatch_of_shown_final :
    let entry : LogEntry := { ofMessage "t" "warning" "Ἀ ΟΔΥΣΣΕΥΣ" with target := some "a" }
    entry.Shows "Ἀ ΟΔΥΣΣΕΥΣ" ∧ "Ἀ ΟΔΥΣΣΕΥΣ".toList = "Ἀ Ο".toList ++ "ΔΥΣΣΕΥΣ".toList ++ [] ∧
      KeepsSigmas "Ἀ Ο".toList.reverse [] "ΔΥΣΣΕΥΣ".toList ∧ entry.isMatch "ΔΥΣΣΕΥΣ" = true ∧
      entry.level ≠ .other ∧ "ARN".toList <:+: entry.level.label.toList ∧ entry.isMatch "ARN" = true := by
  intro entry
  have shown : entry.Shows "Ἀ ΟΔΥΣΣΕΥΣ" := .message rfl
  have occurs : "Ἀ ΟΔΥΣΣΕΥΣ".toList = "Ἀ Ο".toList ++ "ΔΥΣΣΕΥΣ".toList ++ [] := by decide
  have keeps : KeepsSigmas "Ἀ Ο".toList.reverse [] "ΔΥΣΣΕΥΣ".toList := by decide +kernel
  have known : entry.level ≠ .other := by decide +kernel
  have label : "ARN".toList <:+: entry.level.label.toList := by decide +kernel
  obtain ⟨-, found, -, labels⟩ := isMatch_of_shown shown occurs
  exact ⟨shown, occurs, keeps, (found keeps).1, known, label, labels known "ARN" label⟩

/-- What was copied from within a word ends in a sigma, which is then taken for one at the end of a word. -/
theorem sigma_within_word_not_found :
    let entry := ofMessage "t" "INFO" "ΑΣΒ"
    entry.Shows "ΑΣΒ" ∧ "ΑΣΒ".toList = [] ++ "ΑΣ".toList ++ ['Β'] ∧ entry.isMatch "ΑΣ" = false := by
  exact ⟨.message rfl, by decide, by decide +kernel⟩

end ProxyWatch.LogEntry
