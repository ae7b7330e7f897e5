import Mathlib.Order.Nat
import ProxyWatch.Proofs.Endpoint.Edits

/-! The search for the id of a new endpoint.

No counter of the search goes down: it ends because its candidates are distinct and the endpoints are finitely
many, whatever ids they have. -/
namespace ProxyWatch.Registry

/-- Where the search ends that stands at a candidate. One that is taken makes it go on to the next. -/
inductive SearchEnds (registry : Registry) (stamp : String) : Nat → Nat → Prop where
  | free {n : Nat} (absent : candidate stamp n ∉ registry.ids) : SearchEnds registry stamp n n
  | taken {n last : Nat} (present : candidate stamp n ∈ registry.ids)
      (later : SearchEnds registry stamp (n + 1) last) : SearchEnds registry stamp n last

variable {registry : Registry} {stamp : String} {n last other : Nat}

namespace SearchEnds

theorem unique (search : SearchEnds registry stamp n last) (again : SearchEnds registry stamp n other) :
    last = other := by
  induction search with
  | free absent =>
    cases again with
    | free => rfl
    | taken present => exact absurd present absent
  | taken present _ ih =>
    cases again with
    | free absent => exact absurd present absent
    | taken _ later => exact ih later

/-- The search ends at the first candidate that is free. -/
theorem isFirst (search : SearchEnds registry stamp n last) : candidate stamp last ∉ registry.ids ∧
    ∀ m, n ≤ m → m < last → candidate stamp m ∈ registry.ids := by
  induction search with
  | free absent => exact ⟨absent, fun m from_ before => absurd before (Nat.not_lt.mpr from_)⟩
  | taken present _ ih =>
    refine ⟨ih.1, fun m from_ before => ?_⟩
    obtain rfl | later := Nat.eq_or_lt_of_le from_
    · exact present
    · exact ih.2 m later before

private theorem of_isFirst (absent : candidate stamp last ∉ registry.ids) (start : n ≤ last)
    (taken : ∀ m, n ≤ m → m < last → candidate stamp m ∈ registry.ids) : SearchEnds registry stamp n last := by
  induction start using Nat.decreasingInduction with
  | self => exact .free absent
  | of_succ n before ih =>
    exact .taken (taken n (Nat.le_refl n) before) (ih fun m from_ => taken m (Nat.le_of_succ_le from_))

end SearchEnds

/-- The search for a new id tries one more candidate than there are endpoints, at most. -/
theorem exists_searchEnds (registry : Registry) (stamp : String) :
    ∃ last ≤ registry.endpoints.length, SearchEnds registry stamp 0 last := by
  classical
  obtain ⟨n, bound, absent⟩ := exists_free_candidate registry stamp
  have some : ∃ n, candidate stamp n ∉ registry.ids := ⟨n, absent⟩
  refine ⟨Nat.find some, Nat.le_trans (Nat.find_min' some absent) (Nat.le_of_lt_succ bound), ?_⟩
  refine .of_isFirst (Nat.find_spec some) (Nat.zero_le _) fun m _ before => ?_
  exact Classical.not_not.mp (Nat.find_min some before)

private theorem freshId_of_searchEnds (search : SearchEnds registry stamp 0 last)
    (bound : last ≤ registry.endpoints.length) : registry.freshId stamp = candidate stamp last := by
  obtain ⟨absent, taken⟩ := search.isFirst
  have found : (List.range (registry.endpoints.length + 1)).find?
      (fun n => (registry.get? (candidate stamp n)).isNone) = some last := by
    rw [List.find?_range_eq_some]
    refine ⟨by simpa using get?_eq_none_iff.mpr absent, List.mem_range.mpr (Nat.lt_succ_of_le bound), ?_⟩
    intro m before
    obtain ⟨endpoint, held⟩ := get?_of_mem_ids (taken m (Nat.zero_le m) before)
    simp [held]
  rw [freshId, List.find?_map]
  simp only [Function.comp_def, found, Option.map_some, Option.getD_some]

/-- Ids that are distinct stay so under any calls, at any readings of the clock. In any registry at all the search
for a new id comes to an end, within one more candidate than there are endpoints, at an id that none of them has;
and what is added is one inactive endpoint of that id, behind the others as they were. -/
theorem fresh_ids_of_edits (registry : Registry) :
    (registry.ids.Nodup → ∀ edits, (registry.follow edits).ids.Nodup) ∧
    ∀ stamp name url, ∃ last, SearchEnds registry stamp 0 last ∧
      (∀ other, SearchEnds registry stamp 0 other → other = last) ∧
      last + 1 ≤ registry.endpoints.length + 1 ∧
      candidate stamp last ∉ registry.ids ∧
      registry.add stamp name url = (candidate stamp last, ⟨registry.endpoints ++
        [{ id := candidate stamp last, name, url, isActive := false }]⟩) := by
  refine ⟨nodup_ids_follow, fun stamp name url => ?_⟩
  obtain ⟨last, bound, search⟩ := exists_searchEnds registry stamp
  refine ⟨last, search, fun other again => again.unique search, Nat.succ_le_succ bound, search.isFirst.1, ?_⟩
  rw [add, freshId_of_searchEnds search bound]

/-- A clock that stands still, and a list that has ids with numbers already. -/
theorem fresh_ids_of_edits_repeated :
    let registry : Registry := ⟨[⟨"7", "A", "http://a", true⟩, ⟨"7-2", "B", "http://b", false⟩]⟩
    let reached := registry.follow [.add "7" "C" "http://c", .remove "7", .add "7" "D" "http://d"]
    registry.ids.Nodup ∧ reached.ids.Nodup ∧ reached.ids = ["7-2", "7-1", "7"] ∧
      ∃ last, SearchEnds reached "7" 0 last ∧ last + 1 ≤ 4 ∧ candidate "7" last ∉ reached.ids := by
  intro registry reached
  have distinct : registry.ids.Nodup := by decide
  have kept := (fresh_ids_of_edits registry).1 distinct
    [.add "7" "C" "http://c", .remove "7", .add "7" "D" "http://d"]
  obtain ⟨last, search, -, bound, absent, -⟩ := (fresh_ids_of_edits reached).2 "7" "E" "http://e"
  exact ⟨distinct, kept, by decide +kernel, last, search, bound, absent⟩

end ProxyWatch.Registry
