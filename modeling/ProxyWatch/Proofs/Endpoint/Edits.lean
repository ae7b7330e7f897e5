import Mathlib.Data.List.Nodup
import Mathlib.Data.List.Perm.Subperm
import ProxyWatch.Endpoint.Registry

/-! Registries under any calls: which calls fail, and which ids are held afterwards. -/
namespace ProxyWatch.Registry

/-- Where a registry comes from: it wraps a list, or it is loaded from a store. -/
inductive Obtained : Registry → Prop where
  | wrapped (endpoints : List Endpoint) : Obtained (ofList endpoints)
  | loaded (store : Store) : Obtained (load store)

/-- The calls that change a registry. An endpoint is added at some reading of the clock. -/
inductive Edit where
  | add (stamp name url : String)
  | update (id name url : String)
  | remove (id : String)
  | setActive (id : String)

/-- The id that a call is given. -/
def Edit.target? : Edit → Option String
  | add .. => none
  | update id .. | remove id | setActive id => some id

def edit (registry : Registry) : Edit → Except StoreError Registry
  | .add stamp name url => .ok (registry.add stamp name url).2
  | .update id name url => registry.update id name url
  | .remove id => (registry.remove id).map (·.2)
  | .setActive id => registry.setActive id

/-- The registry that a call leaves behind. -/
def perform (registry : Registry) (edit : Edit) : Registry :=
  match registry.edit edit with
  | .ok next => next
  | .error _ => registry

def follow (registry : Registry) (edits : List Edit) : Registry := edits.foldl perform registry

def ids (registry : Registry) : List String := registry.endpoints.map (·.id)

/-- The id that a call is given, if any, is held. -/
def Knows (registry : Registry) (call : Edit) : Prop := ∀ id, call.target? = some id → id ∈ registry.ids

/-- What a call makes of a list of endpoints, if it does not fail. -/
def Edit.onEndpoints : Edit → List Endpoint → List Endpoint
  | add stamp name url, endpoints =>
    endpoints ++ [{ id := Registry.freshId ⟨endpoints⟩ stamp, name := name, url := url }]
  | update id name url, endpoints => changeFirst (·.id == id) ({ · with name, url }) endpoints
  | remove id, endpoints => endpoints.eraseP (·.id == id)
  | setActive id, endpoints => endpoints.map fun endpoint => { endpoint with isActive := endpoint.id == id }

variable {registry : Registry} {id : String} {call : Edit} {error : StoreError}

theorem Obtained.eq_ofList (obtained : Obtained registry) : ∃ endpoints, registry = ofList endpoints := by
  cases obtained with
  | wrapped endpoints => exact ⟨endpoints, rfl⟩
  | loaded store =>
    have fresh : default = ofList [Endpoint.default] := by decide
    unfold load ofAnswer ofValue
    split
    · split
      · exact ⟨_, fresh⟩
      · exact ⟨_, fresh⟩
      · exact ⟨_, rfl⟩
    · exact ⟨_, fresh⟩
    · exact ⟨_, fresh⟩

theorem get?_eq_none_iff : registry.get? id = none ↔ id ∉ registry.ids := by
  simp [get?, ids]

theorem get?_of_mem_ids (member : id ∈ registry.ids) : ∃ endpoint, registry.get? id = some endpoint := by
  cases found : registry.get? id with
  | none => exact absurd member (get?_eq_none_iff.mp found)
  | some endpoint => exact ⟨endpoint, rfl⟩

theorem edit_of_known (known : registry.Knows call) :
    registry.edit call = .ok ⟨call.onEndpoints registry.endpoints⟩ := by
  cases call with
  | add stamp name url => rfl
  | update id | remove id | setActive id =>
    obtain ⟨endpoint, found⟩ := get?_of_mem_ids (known id rfl)
    simp [edit, update, remove, setActive, found, Edit.onEndpoints, Except.map]

private theorem edit_of_unknown (given : call.target? = some id) (absent : id ∉ registry.ids) :
    registry.edit call = .error (.unknownEndpoint id) := by
  have missing := get?_eq_none_iff.mpr absent
  cases call <;> cases given <;> simp [edit, update, remove, setActive, missing, Except.map]

/-- A call either does its work, or is given an id that no endpoint has. -/
theorem edit_cases (registry : Registry) (call : Edit) :
    (registry.Knows call ∧ registry.edit call = .ok ⟨call.onEndpoints registry.endpoints⟩) ∨
    ∃ id, call.target? = some id ∧ id ∉ registry.ids ∧
      registry.edit call = .error (.unknownEndpoint id) := by
  by_cases known : registry.Knows call
  · exact .inl ⟨known, edit_of_known known⟩
  · unfold Knows at known
    push Not at known
    obtain ⟨id, given, absent⟩ := known
    exact .inr ⟨id, given, absent, edit_of_unknown given absent⟩

/-- A call fails exactly if it is given an id that no endpoint has, and it tells which. -/
theorem edit_eq_error_iff : registry.edit call = .error error ↔
    ∃ id, call.target? = some id ∧ id ∉ registry.ids ∧ error = .unknownEndpoint id := by
  obtain ⟨known, done⟩ | ⟨id, given, absent, failed⟩ := edit_cases registry call
  · constructor
    · intro failed
      rw [done] at failed
      cases failed
    · rintro ⟨id, given, absent, -⟩
      exact absurd (known id given) absent
  · rw [failed]
    constructor
    · intro same
      cases same
      exact ⟨id, given, absent, rfl⟩
    · rintro ⟨other, same, -, rfl⟩
      rw [given] at same
      cases same
      rfl

theorem perform_of_error (failed : registry.edit call = .error error) : registry.perform call = registry := by
  rw [perform, failed]

/-- What every call keeps that does its work, any calls keep. -/
theorem follow_invariant (holds : Registry → Prop)
    (kept : ∀ registry call, registry.Knows call → holds registry →
      holds ⟨call.onEndpoints registry.endpoints⟩)
    (start : holds registry) (edits : List Edit) : holds (registry.follow edits) := by
  induction edits generalizing registry with
  | nil => exact start
  | cons call rest ih =>
    refine ih ?_
    obtain ⟨known, done⟩ | ⟨id, -, -, failed⟩ := edit_cases registry call
    · rw [perform, done]
      exact kept registry call known start
    · rw [perform_of_error failed]
      exact start

private theorem candidate_injective (stamp : String) : Function.Injective (candidate stamp) := by
  have longer (n : Nat) : stamp ≠ candidate stamp (n + 1) := by
    intro same
    have lengths : stamp.length = stamp.length + "-".length + (toString (n + 1)).length := by
      conv_lhs => rw [same]
      simp only [candidate, String.length_append]
      rfl
    have dash : "-".length = 1 := by decide
    omega
  intro first second same
  cases first with
  | zero =>
    cases second with
    | zero => rfl
    | succ second => exact absurd same (longer second)
  | succ first =>
    cases second with
    | zero => exact absurd same.symm (longer first)
    | succ second =>
      have texts := congrArg String.toList same
      simp only [candidate, String.toList_append] at texts
      have numbers := congrArg (Nat.ofDigitChars 10 · 0) (List.append_cancel_left texts)
      simpa [Nat.toString_eq_repr] using numbers

/-- There are more candidates than endpoints, so that one of them is free. -/
theorem exists_free_candidate (registry : Registry) (stamp : String) :
    ∃ n < registry.endpoints.length + 1, candidate stamp n ∉ registry.ids := by
  by_contra taken
  push Not at taken
  let candidates := (List.range (registry.endpoints.length + 1)).map (candidate stamp)
  have distinct : candidates.Nodup := List.nodup_range.map (candidate_injective stamp)
  have held : candidates ⊆ registry.ids := by
    intro id member
    obtain ⟨n, bound, rfl⟩ := List.mem_map.mp member
    exact taken n (List.mem_range.mp bound)
  have fits := (distinct.subperm held).length_le
  simp only [candidates, ids, List.length_map, List.length_range] at fits
  omega

theorem freshId_not_mem (registry : Registry) (stamp : String) : registry.freshId stamp ∉ registry.ids := by
  unfold freshId
  cases found : List.find? _ _ with
  | none =>
    obtain ⟨n, bound, free⟩ := exists_free_candidate registry stamp
    have taken := List.find?_eq_none.mp found _ (List.mem_map_of_mem (List.mem_range.mpr bound))
    exact absurd (by simpa using get?_eq_none_iff.mpr free) taken
  | some id => exact get?_eq_none_iff.mp (by simpa using List.find?_some found)

/-- Which endpoints are kept, and what is read of them, does not tell that one of them was changed, if
the change touches neither. -/
theorem map_filter_changeFirst {test : Endpoint → Bool} (kept : Endpoint → Bool)
    (change : Endpoint → Endpoint) (read : Endpoint → β) (same : ∀ endpoint, kept (change endpoint) = kept endpoint)
    (reads : ∀ endpoint, read (change endpoint) = read endpoint) (endpoints : List Endpoint) :
    ((changeFirst test change endpoints).filter kept).map read = (endpoints.filter kept).map read := by
  induction endpoints with
  | nil => rfl
  | cons endpoint rest ih =>
    rw [changeFirst]
    split
    · simp only [List.filter_cons, same]
      split
      · simp [reads]
      · rfl
    · simp only [List.filter_cons]
      split
      · rw [List.map_cons, List.map_cons, ih]
      · exact ih

/-- An endpoint that is added has an id of its own, and no other call makes up an id. -/
theorem ids_onEndpoints (registry : Registry) (call : Edit) :
    (∃ stamp name url, call = .add stamp name url ∧
      ids ⟨call.onEndpoints registry.endpoints⟩ = registry.ids ++ [registry.freshId stamp]) ∨
    (call.target?.isSome ∧ (ids ⟨call.onEndpoints registry.endpoints⟩).Sublist registry.ids) := by
  cases call with
  | add stamp name url => exact .inl ⟨stamp, name, url, rfl, by simp [ids, Edit.onEndpoints]⟩
  | update id name url =>
    have same : ids ⟨(Edit.update id name url).onEndpoints registry.endpoints⟩ = registry.ids := by
      simpa [ids, Edit.onEndpoints] using map_filter_changeFirst (fun _ => true) ({ · with name, url })
        (·.id) (fun _ => rfl) (fun _ => rfl) registry.endpoints
    exact .inr ⟨rfl, same ▸ .refl _⟩
  | remove id => exact .inr ⟨rfl, List.eraseP_sublist.map _⟩
  | setActive id =>
    have same : ids ⟨(Edit.setActive id).onEndpoints registry.endpoints⟩ = registry.ids := List.map_map ..
    exact .inr ⟨rfl, same ▸ .refl _⟩

/-- Ids that are distinct stay distinct. -/
theorem nodup_ids_follow (distinct : registry.ids.Nodup) (edits : List Edit) :
    (registry.follow edits).ids.Nodup := by
  refine follow_invariant (·.ids.Nodup) ?_ distinct edits
  intro registry call _ distinct
  obtain ⟨stamp, name, url, rfl, added⟩ | ⟨-, kept⟩ := ids_onEndpoints registry call
  · rw [added]
    exact distinct.append (List.nodup_singleton _) (by simpa using freshId_not_mem registry stamp)
  · exact distinct.sublist kept

end ProxyWatch.Registry
