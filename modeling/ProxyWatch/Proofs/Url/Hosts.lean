import ProxyWatch.Proofs.Url.Addresses
import ProxyWatch.Proofs.Url.Percent

/-! Every host that is read is read back from its text, and ends where its text ends. -/
namespace ProxyWatch.Url

namespace Domain
variable {c : Char}

private theorem plain_of_mem_toDigits {n : Nat} (member : c ∈ Nat.toDigits 10 n) : IsPlain c ∧ c ≠ '.' ∧ c ≠ 'x' := by
  obtain ⟨d, small, rfl⟩ := mem_toDigits (by decide) member
  exact (show ∀ d < 10, IsPlain (Nat.digitChar d) ∧ Nat.digitChar d ≠ '.' ∧ Nat.digitChar d ≠ 'x' by decide) d small

private theorem toAscii_ipv4 [Idna] (address : Nat) :
    Idna.toAscii (Ipv4.toText address) = some (Ipv4.toText address) ∧ ∀ c ∈ Ipv4.toText address, IsPlain c := by
  have digits : ∀ label ∈ (Ipv4.bytes address).map (Nat.toDigits 10), ∀ c ∈ label, IsPlain c ∧ c ≠ '.' ∧ c ≠ 'x' := by
    intro label member c within
    obtain ⟨n, -, rfl⟩ := List.mem_map.mp member
    exact plain_of_mem_toDigits within
  rw [Ipv4.toText_eq]
  have plain : ∀ c ∈ joinWith ['.'] ((Ipv4.bytes address).map (Nat.toDigits 10)), IsPlain c := by
    intro c member
    obtain rfl | ⟨label, among, within⟩ := mem_joinWith member
    · decide
    · exact (digits label among c within).1
  refine ⟨Idna.toAscii_of_isPlain plain fun label among marked => ?_, plain⟩
  rw [splitOn_joinWith (by simp [Ipv4.bytes]) fun part member dot => (digits part member _ dot).2.1 rfl] at among
  exact (digits label among 'x' (marked.subset List.mem_cons_self)).2.2 rfl

end Domain

namespace Host
variable {text name : List Char} {host : Host} {c : Char}

/-- The characters that end neither a host nor an authority. -/
def IsInner (c : Char) : Prop := 0x20 < c.toNat ∧ c ∉ ['/', '\\', '?', '#', '@', '[', ']', '|']

instance (c : Char) : Decidable (IsInner c) := inferInstanceAs (Decidable (_ ∧ _))

/-- The text of a host does not end before its end. -/
inductive Stands : List Char → Prop where
  | plain {text : List Char} (some : text ≠ []) (all : ∀ c ∈ text, IsInner c ∧ c ≠ ':') : Stands text
  | bracketed {inner : List Char} (all : ∀ c ∈ inner, IsInner c) : Stands ('[' :: (inner ++ [']']))

theorem not_stands_nil : ¬ Stands [] := by
  rintro ⟨some, -⟩
  exact some rfl

theorem Stands.mem (stands : Stands text) (member : c ∈ text) :
    0x20 < c.toNat ∧ c ∉ ['/', '\\', '?', '#', '@'] := by
  have inner (known : IsInner c) : 0x20 < c.toNat ∧ c ∉ ['/', '\\', '?', '#', '@'] :=
    ⟨known.1, fun among => known.2 (List.mem_append_left ['[', ']', '|'] among)⟩
  cases stands with
  | plain _ all => exact inner (all c member).1
  | @bracketed within all =>
    obtain rfl | member := List.mem_cons.mp member
    · decide
    · obtain member | last := List.mem_append.mp member
      · exact inner (all c member)
      · rw [List.mem_singleton.mp last]
        decide

theorem isInner_of_isPlain (plain : Domain.IsPlain c) : IsInner c ∧ c ≠ ':' := by
  have allowed := plain.2.2
  have marks : ∀ d ∈ [':', '/', '\\', '?', '#', '@', '[', ']', '|'], Domain.isForbidden d = true := by decide
  have other : c ∉ [':', '/', '\\', '?', '#', '@', '[', ']', '|'] := fun member => by simp [marks c member] at allowed
  refine ⟨⟨Nat.lt_of_not_le fun low => ?_, fun member => other (.tail _ member)⟩, fun same => other (by simp [same])⟩
  simp [Domain.isForbidden, low] at allowed

/-- A domain is read by its ASCII form, as an address if it ends in a number. -/
theorem read_of_isPlain [Idna] (some_ : name ≠ []) (plain : ∀ c ∈ name, Domain.IsPlain c)
    (ascii : Idna.toAscii name = some name) :
    (¬ Ipv4.endsInNumber name = true → Host.read name = .ok (.domain (String.ofList name))) ∧
      ∀ address, Ipv4.endsInNumber name = true → Ipv4.read? name = some address →
        Host.read name = .ok (.ipv4 address) := by
  have decoded : (Utf8.decode? (percentDecode name)).bind Idna.toAscii = some name := by
    rw [decode?_percentDecode fun percent => absurd (plain _ percent) (by decide)]
    exact ascii
  unfold Host.read
  split
  · exact absurd (plain '[' List.mem_cons_self) (by decide)
  · obtain ⟨c, rest, rfl⟩ := List.exists_cons_of_ne_nil some_
    constructor
    · intro domain
      simp [decoded, domain]
    · intro address number read
      simp [decoded, number, read]

theorem mem_toText_ipv6 {pieces : List Nat} (member : c ∈ Ipv6.toText pieces) : IsInner c := by
  have digit (pieces : List Nat) (within : c ∈ Ipv6.hexText pieces) : IsInner c := by
    obtain rfl | ⟨part, among, within⟩ := mem_joinWith within
    · decide
    · obtain ⟨n, -, rfl⟩ := List.mem_map.mp among
      obtain ⟨d, small, rfl⟩ := mem_toDigits (by decide) within
      exact (show ∀ d < 16, IsInner (Nat.digitChar d) by decide) d small
  unfold Ipv6.toText at member
  split at member
  · exact digit _ member
  · obtain (front | gap) | behind : (c ∈ Ipv6.hexText _ ∨ c ∈ [':', ':']) ∨ c ∈ Ipv6.hexText _ := by
      simpa only [List.mem_append] using member
    · exact digit _ front
    · obtain rfl : c = ':' := by simpa using gap
      decide
    · exact digit _ behind

theorem readBracketed_toText {rest : List Char} (read : readBracketed rest = .ok host) :
    ∃ inner, host.toText = '[' :: (inner ++ [']']) ∧ readBracketed (inner ++ [']']) = .ok host ∧
      Stands host.toText := by
  unfold readBracketed at read
  split at read
  · split at read
    · rename_i pieces address
      cases read
      have again : readBracketed (Ipv6.toText pieces ++ [']']) = .ok (.ipv6 pieces) := by
        simp [readBracketed, Ipv6.read?_toText (Ipv6.isAddress_of_read? address)]
      exact ⟨Ipv6.toText pieces, rfl, again, .bracketed fun c => mem_toText_ipv6⟩
    · cases read
  · cases read

/-- A host of a special url is read back from its text. -/
theorem read_toText [Idna] (read : Host.read text = .ok host) :
    Host.read host.toText = .ok host ∧ Stands host.toText := by
  unfold Host.read at read
  split at read
  · obtain ⟨inner, written, again, stands⟩ := readBracketed_toText read
    rw [written] at stands ⊢
    exact ⟨again, stands⟩
  · split at read
    · cases read
    · cases read
    · rename_i name some_ decoded
      obtain ⟨source, -, written⟩ := Option.bind_eq_some_iff.mp decoded
      have ascii := Idna.toAscii_toAscii written
      have plain := Idna.isPlain_of_toAscii written
      have same := (read_of_isPlain some_ plain ascii).1
      split at read
      · rename_i number
        split at read
        · rename_i address found
          cases read
          obtain ⟨ascii, plain⟩ := Domain.toAscii_ipv4 address
          have some_ : Ipv4.toText address ≠ [] := by simp [Ipv4.toText_eq, Ipv4.bytes, joinWith]
          refine ⟨?_, .plain some_ fun c member => isInner_of_isPlain (plain c member)⟩
          exact (read_of_isPlain some_ plain ascii).2 address (Ipv4.endsInNumber_toText address)
            (Ipv4.read?_toText (Ipv4.lt_of_read? found))
        · cases read
      · rename_i number
        cases read
        rw [toText, String.toList_ofList]
        exact ⟨same number, .plain some_ fun c member => isInner_of_isPlain (plain c member)⟩

private theorem isInner_of_not_isForbidden (allowed : isForbidden c = false) (kept : EncodeSet.controls.Keeps c) :
    IsInner c ∧ c ≠ ':' := by
  have marks : ∀ d ∈ [' ', ':', '/', '\\', '?', '#', '@', '[', ']', '|'], isForbidden d = true := by decide
  have other : c ∉ [' ', ':', '/', '\\', '?', '#', '@', '[', ']', '|'] := fun member => by
    simp [marks c member] at allowed
  refine ⟨⟨Nat.lt_of_le_of_ne kept.1 fun same => other ?_, fun member => other (.tail _ (.tail _ member))⟩,
    fun same => other (by simp [same])⟩
  rw [show c = ' ' from Char.toNat_inj.mp same.symm]
  exact List.mem_cons_self

/-- A host of any other url is read back from its text, unless there is none. -/
theorem readPlain_toText (read : Host.readPlain text = .ok host) :
    Host.readPlain host.toText = .ok host ∧ (host = .domain "" ∨ Stands host.toText) := by
  unfold Host.readPlain at read
  split at read
  · obtain ⟨inner, written, again, stands⟩ := readBracketed_toText read
    rw [written] at stands ⊢
    exact ⟨again, .inr stands⟩
  · split at read
    · cases read
    · rename_i allowed
      cases read
      have free : ∀ c ∈ percentEncode .controls text, isForbidden c = false := by
        intro c member
        obtain ⟨within, -⟩ | written := mem_percentEncode member
        · exact eq_false_of_ne_true fun out => allowed (List.any_eq_true.mpr ⟨c, within, out⟩)
        · exact (show ∀ c ∈ escapes, isForbidden c = false by decide) c written
      have stable : EncodeSet.controls.IsStable := by decide
      rw [toText, String.toList_ofList]
      constructor
      · have again : (percentEncode .controls text).any isForbidden = false :=
          List.any_eq_false.mpr fun c member => by simp [free c member]
        unfold Host.readPlain
        split
        · rename_i bracketed
          exact absurd (free '[' (by rw [bracketed]; exact List.mem_cons_self)) (by decide)
        · rw [if_neg (by simp [again]), percentEncode_idem stable]
      · by_cases empty : percentEncode .controls text = []
        · exact .inl (by rw [empty])
        · exact .inr (.plain empty fun c member =>
            isInner_of_not_isForbidden (free c member) (keeps_of_mem_percentEncode stable member))

end Host
end ProxyWatch.Url
