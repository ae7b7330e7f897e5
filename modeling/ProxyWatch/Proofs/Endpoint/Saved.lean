import ProxyWatch.Proofs.Endpoint.Focus
import ProxyWatch.Proofs.Json.Roundtrip

/-! The list of endpoints that is saved to a store is the one that is loaded from it, whatever the
store held before. -/
namespace ProxyWatch
open Json (Source)
open Registry (storeKey)

namespace FileStore
variable {store : FileStore} {value : Json}

theorem nameFault?_fileName : nameFault? (fileName storeKey) = none := by decide +kernel

theorem nameFault?_draftName : nameFault? (draftName storeKey) = none := by decide +kernel

/-- The list can be saved unless something is in the way of the directory, of its file or of its draft. -/
theorem save_eq_ok_iff : (store.save storeKey value).1 = .ok () ↔
    (∀ fault, store ≠ .obstructed fault) ∧ store.entries.get? (draftName storeKey) ≠ some .folder ∧
      store.entries.get? (fileName storeKey) ≠ some .folder := by
  cases store with
  | obstructed fault => simp [save]
  | absent => simp [save, nameFault?_draftName, entries, Dictionary.get?]
  | directory names =>
    simp only [save, nameFault?_draftName, entries]
    split
    · rename_i draft
      simp [draft]
    · rename_i folder _
      simp [folder]
    · rename_i draft folder
      simpa using ⟨draft, folder⟩

theorem save_of_success (success : (store.save storeKey value).1 = .ok ()) :
    (store.save storeKey value).2 = .directory ((store.entries.erase (draftName storeKey)).insert
      (fileName storeKey) (.file value.toIndentedText)) := by
  obtain ⟨reachable, undrafted, free⟩ := save_eq_ok_iff.mp success
  cases store with
  | obstructed fault => exact absurd rfl (reachable fault)
  | absent | directory => simp [save, nameFault?_draftName]

private theorem load_of_entries {names : Dictionary FileEntry} {text : String}
    (found : names.get? (fileName storeKey) = some (.file text)) (read : Json.parse? text = some value) :
    (directory names).load storeKey = .ok (some value) := by
  have readText : (directory names).read storeKey = .ok (some text) := by
    simp [FileStore.read, nameFault?_fileName, found]
  rw [load, readText]
  simp only [bind, Except.bind, read]
  rfl

end FileStore

namespace Store
variable {store : Store} {value : Json}

/-- The list can be saved. -/
def IsWritable (store : Store) : Prop := ∀ value, (store.save storeKey value).1 = .ok ()

theorem isWritable_files {folder : FileStore} : (files folder).IsWritable ↔
    (∀ fault, folder ≠ .obstructed fault) ∧
      folder.entries.get? (FileStore.draftName storeKey) ≠ some .folder ∧
      folder.entries.get? (FileStore.fileName storeKey) ≠ some .folder :=
  ⟨fun writable => FileStore.save_eq_ok_iff.mp (writable .null),
    fun free _ => FileStore.save_eq_ok_iff.mpr free⟩

theorem IsWritable.save (writable : store.IsWritable) (value : Json) :
    (store.save storeKey value).2.IsWritable := by
  cases store with
  | memory values => exact fun _ => rfl
  | files folder =>
    have saved : ((files folder).save storeKey value).2 = _ :=
      congrArg files (FileStore.save_of_success (writable value))
    have undrafted : FileStore.fileName storeKey ≠ FileStore.draftName storeKey := by decide
    rw [saved]
    refine isWritable_files.mpr ⟨nofun, ?_, ?_⟩
    · simp [FileStore.entries, Dictionary.get?_insert, Dictionary.get?_erase, undrafted]
    · simp [FileStore.entries, Dictionary.get?_insert]

theorem load_save (writable : store.IsWritable) (ordered : value.IsOrdered)
    (plain : value.IsPlain Source.nestingLimit) :
    (store.save storeKey value).2.load storeKey = .ok (some value) := by
  cases store with
  | memory values => simp [save, load, Dictionary.get?_insert]
  | files folder =>
    have saved := FileStore.save_of_success (writable value)
    have read := Json.parse?_toIndentedText ordered plain
    simp only [save, load, saved]
    exact FileStore.load_of_entries (by simp [Dictionary.get?_insert]) read

end Store

/-- The members of an endpoint as they are stored. -/
def Endpoint.stored (endpoint : Endpoint) : Json.Members :=
  [("id", .string endpoint.id), ("isActive", .bool endpoint.isActive), ("name", .string endpoint.name),
    ("url", .string endpoint.url)]

private theorem Endpoint.ofSource?_stored (endpoint : Endpoint) :
    ofSource? (.ofJson (.object endpoint.stored)) = some endpoint := by
  rfl

theorem Endpoint.isOrdered_stored (endpoint : Endpoint) : Json.IsOrdered (.object endpoint.stored) := by
  refine .object ?_ ?_
  · have names : ["id", "isActive", "name", "url"].Pairwise (· < ·) := by decide
    exact List.pairwise_map.mp names
  · simp [Endpoint.stored, Json.IsOrdered.string, Json.IsOrdered.bool]

namespace Registry
variable {registry : Registry} {store : Store}

theorem toValue_eq (registry : Registry) :
    registry.toValue = .array (registry.endpoints.map fun endpoint => .object endpoint.stored) := by
  simp +decide only [toValue, Endpoint.toJson, Dictionary.ofList, List.foldl_cons, List.foldl_nil,
    Dictionary.insert, Endpoint.stored, if_true, if_false]

theorem isOrdered_toValue (registry : Registry) : registry.toValue.IsOrdered := by
  rw [toValue_eq]
  refine .array fun item member => ?_
  obtain ⟨endpoint, -, rfl⟩ := List.mem_map.mp member
  exact endpoint.isOrdered_stored

private theorem isPlain_toValue (registry : Registry) : registry.toValue.IsPlain Source.nestingLimit := by
  rw [toValue_eq]
  refine Json.isPlain_array.mpr fun item member => ?_
  obtain ⟨endpoint, -, rfl⟩ := List.mem_map.mp member
  exact Json.isPlain_object.mpr (by simp [Endpoint.stored])

private theorem listOfSource?_toValue (registry : Registry) :
    Endpoint.listOfSource? (.ofJson registry.toValue) = some registry.endpoints := by
  rw [toValue_eq, Source.ofJson, Endpoint.listOfSource?]
  induction registry.endpoints with
  | nil => rfl
  | cons endpoint rest ih =>
    rw [List.map_cons, Source.ofItems, List.mapM_cons, endpoint.ofSource?_stored, ih]
    rfl

private theorem keepFirstActive_of_single {endpoints : List Endpoint}
    (single : (activeIds ⟨endpoints⟩).length ≤ 1) : keepFirstActive endpoints = endpoints := by
  induction endpoints with
  | nil => rfl
  | cons endpoint rest ih =>
    rw [keepFirstActive]
    split
    · rename_i active
      have others : rest.filter (·.isActive) = [] := by
        simpa [activeIds, List.filter_cons, active] using single
      have idle : ∀ other ∈ rest, { other with isActive := false } = other := by
        intro other member
        have inactive := List.filter_eq_nil_iff.mp others other member
        cases other
        simpa using inactive
      rw [List.map_congr_left idle, List.map_id']
    · rename_i inactive
      rw [ih]
      simpa [activeIds, List.filter_cons, inactive] using single

theorem ofList_of_single (single : registry.activeIds.length ≤ 1) : ofList registry.endpoints = registry :=
  congrArg mk (keepFirstActive_of_single single)

/-- What is loaded after a list was saved: of its active flags the first one is left. -/
theorem load_save (writable : store.IsWritable) :
    load (registry.save store).2 = if registry.endpoints = [] then default else ofList registry.endpoints := by
  obtain ⟨endpoints⟩ := registry
  have loaded := Store.load_save writable (isOrdered_toValue ⟨endpoints⟩) (isPlain_toValue ⟨endpoints⟩)
  rw [load, save, loaded, ofAnswer, ofValue, listOfSource?_toValue]
  cases endpoints with
  | nil => rfl
  | cons endpoint rest => rfl

variable {id : String}

theorem activeIds_add (registry : Registry) (stamp name url : String) :
    (registry.add stamp name url).2.activeIds = registry.activeIds := by
  simp [activeIds, add]

theorem remove_of_mem (member : id ∈ registry.ids) :
    ∃ removed, registry.remove id = .ok (removed, ⟨registry.endpoints.eraseP (·.id == id)⟩) := by
  obtain ⟨endpoint, found⟩ := get?_of_mem_ids member
  exact ⟨endpoint, by rw [remove, found]⟩

theorem activeIds_eraseP (registry : Registry) (id : String) :
    (activeIds ⟨registry.endpoints.eraseP (·.id == id)⟩).Sublist registry.activeIds :=
  (List.eraseP_sublist.filter _).map _

/-- An id that one endpoint holds is gone with this endpoint. -/
theorem not_mem_ids_eraseP (alone : registry.ids.count id = 1) :
    id ∉ ids ⟨registry.endpoints.eraseP (·.id == id)⟩ := by
  have erased : ids ⟨registry.endpoints.eraseP (·.id == id)⟩ = registry.ids.erase id := by
    rw [ids, ids, List.erase_eq_eraseP', List.eraseP_map]
    rfl
  rw [erased, ← List.count_eq_zero, List.count_erase_self, alone]

end Registry
end ProxyWatch
