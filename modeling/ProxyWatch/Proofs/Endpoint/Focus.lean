import Mathlib.Data.List.Induction
import ProxyWatch.Proofs.Endpoint.Edits

/-! Which endpoints of a registry are active after any calls.

Every call but the one that makes an id active can only lose active endpoints. That one marks each endpoint
of the id, so that there is one active endpoint only if the id is not repeated. -/
namespace ProxyWatch.Registry

/-- The ids of the active endpoints. -/
def activeIds (registry : Registry) : List String :=
  (registry.endpoints.filter (·.isActive)).map (·.id)

variable {registry : Registry} {id : String}

theorem activeIds_ofList (endpoints : List Endpoint) :
    (ofList endpoints).activeIds = (activeIds ⟨endpoints⟩).take 1 := by
  unfold activeIds ofList
  induction endpoints with
  | nil => rfl
  | cons endpoint rest ih =>
    rw [keepFirstActive]
    split
    · rename_i active
      simp [active]
    · rename_i inactive
      simpa [inactive] using ih

theorem single_active_ofList (endpoints : List Endpoint) : (ofList endpoints).activeIds.length ≤ 1 := by
  rw [activeIds_ofList]
  exact List.length_take_le 1 _

theorem Obtained.single_active (obtained : Obtained registry) : registry.activeIds.length ≤ 1 := by
  obtain ⟨endpoints, rfl⟩ := obtained.eq_ofList
  exact single_active_ofList endpoints

/-- Making an id active makes every endpoint of that id active, and no other. -/
theorem activeIds_setActive (registry : Registry) (id : String) :
    activeIds ⟨(Edit.setActive id).onEndpoints registry.endpoints⟩ =
      List.replicate (registry.ids.count id) id := by
  unfold activeIds Edit.onEndpoints ids
  dsimp only
  induction registry.endpoints with
  | nil => rfl
  | cons endpoint rest ih =>
    by_cases chosen : endpoint.id = id
    · simpa [chosen, List.replicate_succ] using ih
    · simpa [chosen] using ih

theorem activeIds_onEndpoints (registry : Registry) (call : Edit) :
    (∃ id, call = .setActive id) ∨
      (activeIds ⟨call.onEndpoints registry.endpoints⟩).Sublist registry.activeIds := by
  cases call with
  | add stamp name url =>
    have same : activeIds ⟨(Edit.add stamp name url).onEndpoints registry.endpoints⟩ = registry.activeIds := by
      simp [activeIds, Edit.onEndpoints]
    exact .inr (same ▸ .refl _)
  | update id name url =>
    have same : activeIds ⟨(Edit.update id name url).onEndpoints registry.endpoints⟩ = registry.activeIds :=
      map_filter_changeFirst _ ({ · with name, url }) _ (fun _ => rfl) (fun _ => rfl) registry.endpoints
    exact .inr (same ▸ .refl _)
  | remove id => exact .inr ((List.eraseP_sublist.filter _).map _)
  | setActive id => exact .inl ⟨id, rfl⟩

/-- Only a call that makes a known id active can add to the active endpoints. -/
theorem activeIds_perform (registry : Registry) (call : Edit) :
    (∃ id ∈ registry.ids, call = .setActive id ∧
      (registry.perform call).activeIds = List.replicate (registry.ids.count id) id) ∨
    (registry.perform call).activeIds.Sublist registry.activeIds := by
  obtain ⟨known, done⟩ | ⟨id, -, -, failed⟩ := edit_cases registry call
  · rw [perform, done]
    obtain ⟨id, rfl⟩ | kept := activeIds_onEndpoints registry call
    · exact .inl ⟨id, known id rfl, rfl, activeIds_setActive registry id⟩
    · exact .inr kept
  · rw [perform_of_error failed]
    exact .inr (.refl _)

theorem edit_setActive (member : id ∈ registry.ids) :
    registry.edit (.setActive id) = .ok ⟨(Edit.setActive id).onEndpoints registry.endpoints⟩ := by
  refine edit_of_known ?_
  rintro other ⟨⟩
  exact member

private theorem activeIds_perform_setActive (member : id ∈ registry.ids) :
    (registry.perform (.setActive id)).activeIds = List.replicate (registry.ids.count id) id := by
  rw [perform, edit_setActive member]
  exact activeIds_setActive registry id

theorem follow_concat (registry : Registry) (edits : List Edit) (call : Edit) :
    registry.follow (edits ++ [call]) = (registry.follow edits).perform call := by
  simp [follow]

private theorem activeIds_agree_follow (start : registry.activeIds.length ≤ 1) (edits : List Edit) :
    ∀ id ∈ (registry.follow edits).activeIds, ∀ other ∈ (registry.follow edits).activeIds, id = other := by
  refine follow_invariant
    (fun reached => ∀ id ∈ reached.activeIds, ∀ other ∈ reached.activeIds, id = other) ?_ ?_ edits
  · intro before call _ agree
    obtain ⟨id, rfl⟩ | kept := activeIds_onEndpoints before call
    · rw [activeIds_setActive]
      intro first member second otherMember
      rw [List.eq_of_mem_replicate member, List.eq_of_mem_replicate otherMember]
    · intro id member other otherMember
      exact agree id (kept.subset member) other (kept.subset otherMember)
  · intro id member other otherMember
    obtain ⟨only, single⟩ := List.length_eq_one_iff.mp
      (Nat.le_antisymm start (List.length_pos_of_mem member))
    rw [single, List.mem_singleton] at member otherMember
    rw [member, otherMember]

/-- There is never more than one active endpoint as long as no id is made active that is repeated. -/
theorem activeIds_follow_iff (start : registry.activeIds.length ≤ 1) (edits : List Edit) :
    (∀ earlier, earlier <+: edits → (registry.follow earlier).activeIds.length ≤ 1) ↔
      ∀ earlier id, earlier ++ [.setActive id] <+: edits → (registry.follow earlier).ids.count id ≤ 1 := by
  constructor
  · intro single earlier id reached
    by_cases member : id ∈ (registry.follow earlier).ids
    · have chosen := single _ reached
      rwa [follow_concat, activeIds_perform_setActive member, List.length_replicate] at chosen
    · rw [List.count_eq_zero_of_not_mem member]
      exact Nat.zero_le 1
  · intro unrepeated earlier
    induction earlier using List.reverseRecOn with
    | nil => exact fun _ => start
    | append_singleton earlier call ih =>
      intro reached
      rw [follow_concat]
      obtain ⟨id, -, rfl, chosen⟩ | kept := activeIds_perform (registry.follow earlier) call
      · rw [chosen, List.length_replicate]
        exact unrepeated earlier id reached
      · exact Nat.le_trans kept.length_le (ih ((List.prefix_append ..).trans reached))

/-- After any calls the active endpoints are of one id. There is at most one of them after every call exactly
if each id is held by at most one endpoint when it is made active, as it is if the ids were distinct to
begin with. Making a known id active leaves exactly its endpoints active. A call fails exactly if the
id that it is given is unknown, and then leaves the registry as it was. -/
theorem active_of_edits (obtained : Obtained registry) (edits : List Edit) :
    let reached := registry.follow edits
    (∀ id ∈ reached.activeIds, ∀ other ∈ reached.activeIds, id = other) ∧
    ((∀ earlier, earlier <+: edits → (registry.follow earlier).activeIds.length ≤ 1) ↔
      ∀ earlier id, earlier ++ [.setActive id] <+: edits → (registry.follow earlier).ids.count id ≤ 1) ∧
    (registry.ids.Nodup → reached.activeIds.length ≤ 1) ∧
    (∀ id ∈ reached.ids, ∃ next, reached.setActive id = .ok next ∧
      next.activeIds = List.replicate (reached.ids.count id) id ∧
      (registry.ids.Nodup → next.activeIds = [id])) ∧
    ∀ call error,
      (reached.edit call = .error error ↔
        ∃ id, call.target? = some id ∧ id ∉ reached.ids ∧ error = .unknownEndpoint id) ∧
      (reached.edit call = .error error → reached.perform call = reached) := by
  intro reached
  have start := obtained.single_active
  refine ⟨activeIds_agree_follow start edits, activeIds_follow_iff start edits, ?_, ?_,
    fun call error => ⟨edit_eq_error_iff, perform_of_error⟩⟩
  · intro distinct
    refine (activeIds_follow_iff start edits).mpr ?_ edits (List.prefix_refl _)
    intro earlier id _
    exact List.nodup_iff_count_le_one.mp (nodup_ids_follow distinct earlier) id
  · intro id member
    refine ⟨_, edit_setActive member, activeIds_setActive reached id, fun distinct => ?_⟩
    rw [activeIds_setActive, List.count_eq_one_of_mem (nodup_ids_follow distinct edits) member]
    rfl

/-- A list that several endpoints claim the focus of. -/
theorem active_of_edits_distinct :
    let registry := ofList [⟨"a", "A", "http://a", true⟩, ⟨"b", "B", "http://b", true⟩]
    let reached := registry.follow [.setActive "b", .add "7" "C" "http://c", .remove "x"]
    Obtained registry ∧ registry.ids.Nodup ∧ reached.activeIds.length ≤ 1 ∧
      ∃ next, reached.setActive "7" = .ok next ∧ next.activeIds = ["7"] := by
  intro registry reached
  have obtained : Obtained registry := .wrapped _
  have distinct : registry.ids.Nodup := by decide
  obtain ⟨-, -, single, chosen, -⟩ :=
    active_of_edits obtained [.setActive "b", .add "7" "C" "http://c", .remove "x"]
  obtain ⟨next, done, -, only⟩ := chosen "7" (by decide)
  exact ⟨obtained, distinct, single distinct, next, done, only distinct⟩

/-- Two endpoints of one id both become active. -/
theorem two_active_of_repeated_id :
    let registry := ofList [⟨"a", "A", "http://a", false⟩, ⟨"a", "B", "http://b", false⟩]
    Obtained registry ∧ "a" ∈ registry.ids ∧ (registry.follow [.setActive "a"]).activeIds = ["a", "a"] ∧
      ¬ (registry.follow [.setActive "a"]).activeIds.length ≤ 1 :=
  ⟨.wrapped _, by decide, by decide, by decide⟩

end ProxyWatch.Registry
