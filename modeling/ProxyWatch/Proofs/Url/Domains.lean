import ProxyWatch.Proofs.Text.Lowercase
import ProxyWatch.Proofs.Url.Splitting
import ProxyWatch.Proofs.Url.Punycode
import ProxyWatch.Url.Host

/-! Domains in ASCII without the tables of UTS 46.

Of the mappings there are lower case, the full-width forms and the characters that are dropped. All others stand for
themselves, and what an encoded label stands for is not checked beyond that. -/
namespace ProxyWatch.Url.Domain

/-- The characters that are dropped from a domain. -/
def isIgnored (c : Char) : Bool :=
  let n := c.toNat
  n == 0xAD || n == 0x34F || n == 0x200B || n == 0x2060 || n == 0xFEFF || (0x180B ≤ n && n ≤ 0x180D)
    || (0xFE00 ≤ n && n ≤ 0xFE0F)

/-- Full-width forms become ASCII and letters become lower case. -/
def mapChar (c : Char) : List Char :=
  let n := c.toNat
  if isIgnored c then []
  else if n = 0x3002 ∨ n = 0xFF0E ∨ n = 0xFF61 then ['.']
  else if 0xFF01 ≤ n ∧ n ≤ 0xFF5E then [(Char.ofNat (n - 0xFEE0)).toLower]
  else Text.lowerChar c

/-- A label in ASCII. A label marked as encoded must write something beyond ASCII. -/
def labelToAscii (label : List Char) : Option (List Char) :=
  if label.all (·.toNat < 128) then
    match label with
    | 'x' :: 'n' :: '-' :: '-' :: encoded => do
      let decoded ← Punycode.decode? encoded
      if decoded.all (·.toNat < 128) then none else some label
    | label => some label
  else some ('x' :: 'n' :: '-' :: '-' :: Punycode.encode label)

def isInvalid (c : Char) : Bool :=
  isForbidden c || (0x80 ≤ c.toNat && c.toNat < 0xA0) || c.toNat == 0xFFFD

/-- A domain in ASCII lower case. -/
def simpleAscii (name : List Char) : Option (List Char) := do
  let mapped := name.flatMap mapChar
  if mapped.any isInvalid then none
  let labels ← (splitOn '.' mapped).mapM labelToAscii
  pure (joinWith ['.'] labels)

variable {c d : Char} {name label ascii out : List Char}

private theorem mapChar_of_isPlain (plain : IsPlain c) : mapChar c = [c] := by
  obtain ⟨small, lower, -⟩ := plain
  have listed : isIgnored c = false := by
    simp [isIgnored]
    omega
  have others : ¬ (c.toNat = 0x3002 ∨ c.toNat = 0xFF0E ∨ c.toNat = 0xFF61) := by omega
  have wide : ¬ (0xFF01 ≤ c.toNat ∧ c.toNat ≤ 0xFF5E) := by omega
  simp [mapChar, listed, others, wide, Text.lowerChar, small, lower]

private theorem flatMap_mapChar_of_isPlain (plain : ∀ c ∈ name, IsPlain c) : name.flatMap mapChar = name := by
  induction name with
  | nil => rfl
  | cons c rest ih =>
    rw [List.flatMap_cons, mapChar_of_isPlain (plain c List.mem_cons_self), ih fun d later => plain d (.tail _ later),
      List.singleton_append]

private theorem not_isInvalid_of_isPlain (plain : IsPlain c) : isInvalid c = false := by
  obtain ⟨small, -, allowed⟩ := plain
  simp [isInvalid, allowed]
  omega

private theorem isPlain_of_mem_mapChar (member : d ∈ mapChar c) (small : d.toNat < 128) (valid : isInvalid d = false) :
    IsPlain d := by
  have allowed : isForbidden d = false := by
    simp only [isInvalid, Bool.or_eq_false_iff] at valid
    exact valid.1.1
  refine ⟨small, ?_, allowed⟩
  unfold mapChar at member
  dsimp only at member
  split at member
  · cases member
  · split at member
    · rw [List.mem_singleton.mp member]
      rfl
    · split at member
      · rw [List.mem_singleton.mp member, Text.toLower_toLower]
      · exact Text.toLower_of_mem_lowerChar member small

private theorem plain_of_mem_encode (plain : ∀ c ∈ label, c ≠ '.' ∧ (c.toNat < 128 → IsPlain c))
    (member : c ∈ Punycode.encode label) : IsPlain c ∧ c ≠ '.' := by
  obtain ⟨among, small⟩ | rfl | ⟨d, small, rfl⟩ := Punycode.mem_encode member
  · exact ⟨(plain c among).2 small, (plain c among).1⟩
  · decide
  · exact (show ∀ d < 36, IsPlain (Punycode.digitChar d) ∧ Punycode.digitChar d ≠ '.' by decide) d small

private theorem eq_of_labelToAscii (all : label.all (·.toNat < 128) = true) (written : labelToAscii label = some out) :
    out = label := by
  unfold labelToAscii at written
  rw [if_pos all] at written
  split at written
  · obtain ⟨decoded, -, written⟩ := Option.bind_eq_some_iff.mp written
    split at written
    · cases written
    · exact (Option.some.inj written).symm
  · exact (Option.some.inj written).symm

/-- The ASCII form of a label is its own, in plain characters other than the dot. -/
theorem labelToAscii_spec (plain : ∀ c ∈ label, c ≠ '.' ∧ (c.toNat < 128 → IsPlain c))
    (written : labelToAscii label = some out) :
    labelToAscii out = some out ∧ ∀ c ∈ out, IsPlain c ∧ c ≠ '.' := by
  by_cases all : label.all (·.toNat < 128) = true
  · obtain rfl := eq_of_labelToAscii all written
    refine ⟨written, fun c member => ⟨(plain c member).2 ?_, (plain c member).1⟩⟩
    simpa using List.all_eq_true.mp all c member
  · unfold labelToAscii at written
    rw [if_neg all] at written
    obtain rfl := Option.some.inj written
    have kept : ∀ c ∈ 'x' :: 'n' :: '-' :: '-' :: Punycode.encode label, IsPlain c ∧ c ≠ '.' := by
      intro c member
      obtain rfl | rfl | rfl | rfl | member :
          c = 'x' ∨ c = 'n' ∨ c = '-' ∨ c = '-' ∨ c ∈ Punycode.encode label := by
        simpa using member
      · decide
      · decide
      · decide
      · decide
      · exact plain_of_mem_encode plain member
    have ascii : ('x' :: 'n' :: '-' :: '-' :: Punycode.encode label).all (·.toNat < 128) = true :=
      List.all_eq_true.mpr fun c member => decide_eq_true (kept c member).1.1
    refine ⟨?_, kept⟩
    rw [labelToAscii, if_pos ascii]
    simp only [Punycode.decode?_encode, Option.bind_eq_bind, Option.bind_some, if_neg all]

private theorem exists_labels (written : simpleAscii name = some ascii) :
    ∃ labels, (splitOn '.' (name.flatMap mapChar)).mapM labelToAscii = some labels ∧
      ascii = joinWith ['.'] labels ∧ (name.flatMap mapChar).any isInvalid = false := by
  unfold simpleAscii at written
  dsimp only at written
  split at written
  · cases written
  · rename_i valid
    obtain ⟨labels, all, same⟩ := Option.bind_eq_some_iff.mp written
    cases same
    exact ⟨labels, all, rfl, by simpa using valid⟩

theorem simpleAscii_joinWith {labels : List (List Char)} (some_ : labels ≠ [])
    (each : ∀ label ∈ labels, labelToAscii label = some label ∧ ∀ c ∈ label, IsPlain c ∧ c ≠ '.') :
    simpleAscii (joinWith ['.'] labels) = some (joinWith ['.'] labels) ∧ ∀ c ∈ joinWith ['.'] labels, IsPlain c := by
  have plain : ∀ c ∈ joinWith ['.'] labels, IsPlain c := by
    intro c member
    obtain rfl | ⟨label, among, within⟩ := mem_joinWith member
    · decide
    · exact ((each label among).2 c within).1
  refine ⟨?_, plain⟩
  have mapped := flatMap_mapChar_of_isPlain plain
  have allowed : (joinWith ['.'] labels).any isInvalid = false :=
    List.any_eq_false.mpr fun c member => by simp [not_isInvalid_of_isPlain (plain c member)]
  have split : splitOn '.' (joinWith ['.'] labels) = labels :=
    splitOn_joinWith some_ fun label member dot => ((each label member).2 _ dot).2 rfl
  have again : labels.mapM labelToAscii = some (labels.map id) :=
    mapM_eq_map fun label member => (each label member).1
  simp [simpleAscii, mapped, allowed, split, again]

/-- A domain in ASCII is its own ASCII form, in plain characters. -/
theorem simpleAscii_spec (written : simpleAscii name = some ascii) :
    simpleAscii ascii = some ascii ∧ ∀ c ∈ ascii, IsPlain c := by
  obtain ⟨labels, all, rfl, valid⟩ := exists_labels written
  refine simpleAscii_joinWith ?_ fun label member => ?_
  · rintro rfl
    obtain ⟨first, rest, parts⟩ := List.exists_cons_of_ne_nil (splitOn_ne_nil '.' (name.flatMap mapChar))
    rw [parts, List.mapM_cons] at all
    obtain ⟨_, -, all⟩ := Option.bind_eq_some_iff.mp all
    obtain ⟨_, -, same⟩ := Option.bind_eq_some_iff.mp all
    cases same
  · obtain ⟨part, among, form⟩ := exists_of_mem_mapM all member
    refine labelToAscii_spec (fun c within => ?_) form
    obtain ⟨mapped, other⟩ := mem_of_mem_splitOn among within
    obtain ⟨source, -, image⟩ := List.mem_flatMap.mp mapped
    have allowed : isInvalid c = false := by simpa using List.any_eq_false.mp valid c mapped
    exact ⟨other, fun small => isPlain_of_mem_mapChar image small allowed⟩

private theorem labelToAscii_of_unmarked (plain : ∀ c ∈ label, IsPlain c) (unmarked : ¬ encodedMark <+: label) :
    labelToAscii label = some label := by
  unfold labelToAscii
  rw [if_pos (List.all_eq_true.mpr fun c member => decide_eq_true (plain c member).1)]
  split
  · rename_i encoded
    exact absurd (List.prefix_append encodedMark encoded) unmarked
  · rfl

private theorem simpleAscii_of_isPlain (plain : ∀ c ∈ name, IsPlain c)
    (unmarked : ∀ label ∈ splitOn '.' name, ¬ encodedMark <+: label) : simpleAscii name = some name := by
  have each : ∀ label ∈ splitOn '.' name, labelToAscii label = some label ∧ ∀ c ∈ label, IsPlain c ∧ c ≠ '.' := by
    intro label among
    have inner (c : Char) (within : c ∈ label) : IsPlain c ∧ c ≠ '.' :=
      have ⟨member, other⟩ := mem_of_mem_splitOn among within
      ⟨plain c member, other⟩
    exact ⟨labelToAscii_of_unmarked (fun c within => (inner c within).1) (unmarked label among), inner⟩
  have written := (simpleAscii_joinWith (splitOn_ne_nil '.' name) each).1
  rwa [joinWith_splitOn] at written

/-- What runs uses this conversion. -/
instance : Idna where
  toAscii := simpleAscii
  toAscii_toAscii written := (simpleAscii_spec written).1
  isPlain_of_toAscii written := (simpleAscii_spec written).2
  toAscii_of_isPlain := simpleAscii_of_isPlain

end ProxyWatch.Url.Domain
