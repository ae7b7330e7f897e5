import Mathlib.Data.List.Induction
import ProxyWatch.Proofs.Data.Ordered

/-! Tables that are gathered from pairs, one after another: the last pair of a key is the one that is found. -/
namespace ProxyWatch

theorem concat_eq_append_cons {entries earlier later : List α} {last entry : α}
    (same : entries ++ [last] = earlier ++ entry :: later) :
    (later = [] ∧ entries = earlier ∧ last = entry) ∨
      ∃ rest, later = rest ++ [last] ∧ entries = earlier ++ entry :: rest := by
  rcases List.eq_nil_or_concat later with rfl | ⟨rest, final, rfl⟩
  · exact .inl ⟨rfl, List.append_singleton_inj.mp same⟩
  · have regrouped : entries ++ [last] = (earlier ++ entry :: rest) ++ [final] := by
      simpa using same
    obtain ⟨front, rfl⟩ := List.append_singleton_inj.mp regrouped
    exact .inr ⟨rest, List.concat_eq_append, front⟩

namespace Dictionary
variable {α : Type u} {β : Type v} {pairs : List (String × α)} {key : String} {value : α}

theorem get?_ofList_concat (pairs : List (String × α)) (pair : String × α) (key : String) :
    (ofList (pairs ++ [pair])).get? key = if pair.1 = key then some pair.2 else (ofList pairs).get? key := by
  rw [ofList, List.foldl_append, List.foldl_cons, List.foldl_nil, get?_insert]
  rfl

theorem get?_ofList_eq_some_iff : (ofList pairs).get? key = some value ↔
    ∃ before after, pairs = before ++ (key, value) :: after ∧ key ∉ after.map (·.1) := by
  induction pairs using List.reverseRecOn with
  | nil => simp [ofList, get?]
  | append_singleton pairs pair ih =>
    rw [get?_ofList_concat]
    by_cases same : pair.1 = key
    · rw [if_pos same]
      constructor
      · intro found
        obtain rfl := Option.some.inj found
        exact ⟨pairs, [], by rw [← same], by simp⟩
      · rintro ⟨before, after, split, last⟩
        obtain ⟨-, -, rfl⟩ | ⟨rest, rfl, -⟩ := concat_eq_append_cons split
        · rfl
        · exact absurd (by simp [same]) last
    · rw [if_neg same, ih]
      constructor
      · rintro ⟨before, after, rfl, last⟩
        exact ⟨before, after ++ [pair], by simp, by simpa [Ne.symm same] using last⟩
      · rintro ⟨before, after, split, last⟩
        obtain ⟨-, -, rfl⟩ | ⟨rest, rfl, whole⟩ := concat_eq_append_cons split
        · exact absurd rfl same
        · exact ⟨before, rest, whole, fun member => last (by simp [member])⟩

theorem get?_ofList_isSome (member : key ∈ pairs.map (·.1)) :
    ((ofList pairs).get? key).isSome = true := by
  induction pairs using List.reverseRecOn with
  | nil => cases member
  | append_singleton pairs pair ih =>
    rw [get?_ofList_concat]
    by_cases same : pair.1 = key
    · rw [if_pos same]
      rfl
    · rw [if_neg same]
      rw [List.map_append, List.mem_append] at member
      exact ih (member.resolve_right fun last => same (List.mem_singleton.mp last).symm)

theorem mem_keys_ofList : key ∈ (ofList pairs).keys ↔ key ∈ pairs.map (·.1) := by
  constructor
  · intro member
    obtain ⟨pair, listed, rfl⟩ := List.mem_map.mp member
    exact List.mem_map_of_mem (mem_ofList listed)
  · intro member
    obtain ⟨value, found⟩ := Option.isSome_iff_exists.mp (get?_ofList_isSome member)
    exact List.mem_map.mpr ⟨_, mem_of_get? found, rfl⟩

theorem get?_ofList_filter (pairs : List (String × α)) (keep : String → Bool) (kept : keep key = true) :
    (ofList (pairs.filter fun pair => keep pair.1)).get? key = (ofList pairs).get? key := by
  induction pairs using List.reverseRecOn with
  | nil => rfl
  | append_singleton pairs pair ih =>
    rw [get?_ofList_concat, ← ih]
    cases among : keep pair.1 with
    | true =>
      have whole : (pairs ++ [pair]).filter (fun pair => keep pair.1) =
          pairs.filter (fun pair => keep pair.1) ++ [pair] := by simp [List.filter_append, among]
      rw [whole, get?_ofList_concat]
    | false =>
      have other : pair.1 ≠ key := fun same => by simp [← same, among] at kept
      have whole : (pairs ++ [pair]).filter (fun pair => keep pair.1) = pairs.filter fun pair => keep pair.1 := by
        simp [List.filter_append, among]
      rw [whole, if_neg other]

theorem get?_ofList_map (f : α → β) (pairs : List (String × α)) (key : String) :
    (ofList (pairs.map fun pair => (pair.1, f pair.2))).get? key = ((ofList pairs).get? key).map f := by
  induction pairs using List.reverseRecOn with
  | nil => rfl
  | append_singleton pairs pair ih =>
    rw [List.map_append, List.map_singleton, get?_ofList_concat, get?_ofList_concat, ih]
    split <;> rfl

end Dictionary
end ProxyWatch
