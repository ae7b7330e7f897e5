import Mathlib.Data.List.Forall2
import ProxyWatch.Proofs.Endpoint.Saved
import ProxyWatch.Proofs.Json.Records

/-! The list of endpoints that is loaded, whatever a store answers: the endpoints that its records write,
with the first active flag alone, or the default list where no endpoint is written. What has been
loaded is loaded again after it was saved. -/
namespace ProxyWatch
open Json (Source)
open Registry (storeKey)

namespace Endpoint
variable {value : Json} {endpoint : Endpoint} {endpoints : List Endpoint}

/-- How an endpoint is written: as an object that has each of its members once, among any others, or
as the array of the members in their declared order. -/
inductive IsWritten : Json → Endpoint → Prop where
  | named (members : Json.Members) (endpoint : Endpoint)
      (once : ∀ name ∈ Endpoint.members, (Dictionary.keys members).count name = 1)
      (id : members.get? "id" = some (.string endpoint.id))
      (name : members.get? "name" = some (.string endpoint.name))
      (url : members.get? "url" = some (.string endpoint.url))
      (isActive : members.get? "isActive" = some (.bool endpoint.isActive)) :
      IsWritten (.object members) endpoint
  | listed (endpoint : Endpoint) :
      IsWritten (.array [.string endpoint.id, .string endpoint.name, .string endpoint.url,
        .bool endpoint.isActive]) endpoint

/-- The value is an array that writes the endpoints one by one. -/
def Lists (value : Json) (endpoints : List Endpoint) : Prop :=
  ∃ items, value = .array items ∧ List.Forall₂ IsWritten items endpoints

/-- The record of an endpoint needs a value of the right kind in each of its four places. -/
theorem ofSource?_eq_some_iff_slots {tree : Source} : ofSource? tree = some endpoint ↔
    ∃ id name url isActive, tree.slots? members = some [some id, some name, some url, some isActive] ∧
      id.text? = some endpoint.id ∧ name.text? = some endpoint.name ∧ url.text? = some endpoint.url ∧
      isActive.bool? = some endpoint.isActive := by
  constructor
  · intro read
    obtain ⟨slots, found, read⟩ := Option.bind_eq_some_iff.mp read
    split at read
    · simp only [Option.bind_eq_bind, Option.pure_def, Option.bind_eq_some_iff, Option.some.injEq] at read
      obtain ⟨id, rfl, idText, idRead, name, rfl, nameText, nameRead, url, rfl, urlText, urlRead,
        isActive, rfl, flag, flagRead, rfl⟩ := read
      exact ⟨id, name, url, isActive, found, idRead, nameRead, urlRead, flagRead⟩
    · cases read
  · rintro ⟨id, name, url, isActive, found, idRead, nameRead, urlRead, flagRead⟩
    simp [ofSource?, found, idRead, nameRead, urlRead, flagRead]

theorem count_keys_of_get? {members : Json.Members} {name : String}
    (found : members.get? name = some value) : 0 < (Dictionary.keys members).count name :=
  List.count_pos_iff.mpr (List.mem_map_of_mem (Dictionary.mem_of_get? found))

theorem ofSource?_eq_some_iff : ofSource? (.ofJson value) = some endpoint ↔ IsWritten value endpoint := by
  rw [ofSource?_eq_some_iff_slots]
  constructor
  · rintro ⟨id, name, url, isActive, found, idRead, nameRead, urlRead, flagRead⟩
    cases value with
    | null | bool | number | string => cases found
    | array items =>
      rw [Source.slots?_array] at found
      split at found
      · -- Four members are given only if none of them is left off the end.
        obtain ⟨a, b, c, d, rfl⟩ : ∃ a b c d, items = [a, b, c, d] := by
          rcases items with - | ⟨a, - | ⟨b, - | ⟨c, - | ⟨d, - | ⟨e, rest⟩⟩⟩⟩⟩ <;>
            simp_all [members, List.replicate]
        simp only [members, List.map_cons, List.map_nil, List.length_cons, List.length_nil,
          Nat.sub_self, List.replicate_zero, List.append_nil, Option.some.injEq, List.cons.injEq,
          and_true] at found
        obtain ⟨rfl, rfl, rfl, rfl⟩ := found
        rw [Source.text?_ofJson_eq_some_iff] at idRead nameRead urlRead
        rw [Source.bool?_ofJson_eq_some_iff] at flagRead
        subst idRead nameRead urlRead flagRead
        exact .listed endpoint
      · cases found
    | object table =>
      rw [Source.slots?_object] at found
      split at found
      · rename_i once
        simp only [members, List.map_cons, List.map_nil, Option.some.injEq, List.cons.injEq,
          Option.map_eq_some_iff, and_true] at found
        obtain ⟨⟨idValue, idFound, rfl⟩, ⟨nameValue, nameFound, rfl⟩, ⟨urlValue, urlFound, rfl⟩,
          ⟨flagValue, flagFound, rfl⟩⟩ := found
        rw [Source.text?_ofJson_eq_some_iff] at idRead nameRead urlRead
        rw [Source.bool?_ofJson_eq_some_iff] at flagRead
        subst idRead nameRead urlRead flagRead
        refine .named table endpoint (fun name member => ?_) idFound nameFound urlFound flagFound
        have atMost : (Dictionary.keys table).count name ≤ 1 := by simpa using List.all_eq_true.mp once name member
        refine Nat.le_antisymm atMost ?_
        simp only [members, List.mem_cons, List.not_mem_nil, or_false] at member
        obtain rfl | rfl | rfl | rfl := member
        · exact count_keys_of_get? idFound
        · exact count_keys_of_get? nameFound
        · exact count_keys_of_get? urlFound
        · exact count_keys_of_get? flagFound
      · cases found
  · intro written
    cases written with
    | listed =>
      exact ⟨_, _, _, _, Source.slots?_array members _, rfl, rfl, rfl, rfl⟩
    | named table _ once id name url isActive =>
      have single : members.all fun name => (Dictionary.keys table).count name ≤ 1 :=
        List.all_eq_true.mpr fun name member => by simp [once name member]
      refine ⟨.string endpoint.id, .string endpoint.name, .string endpoint.url, .bool endpoint.isActive,
        ?_, rfl, rfl, rfl, rfl⟩
      rw [Source.slots?_object, if_pos single]
      simp [members, id, name, url, isActive, Source.ofJson]

theorem listOfSource?_eq_some_iff : listOfSource? (.ofJson value) = some endpoints ↔ Lists value endpoints := by
  have items_iff : ∀ items : List Json, (Source.ofItems items).mapM ofSource? = some endpoints ↔
      List.Forall₂ IsWritten items endpoints := by
    intro items
    induction items generalizing endpoints with
    | nil => cases endpoints <;> simp [Source.ofItems]
    | cons item rest ih =>
      rw [Source.ofItems, List.mapM_cons]
      constructor
      · intro read
        obtain ⟨endpoint, first, read⟩ := Option.bind_eq_some_iff.mp read
        obtain ⟨others, later, same⟩ := Option.bind_eq_some_iff.mp read
        cases same
        exact .cons (ofSource?_eq_some_iff.mp first) (ih.mp later)
      · rintro (- | ⟨first, later⟩)
        simp [ofSource?_eq_some_iff.mpr first, ih.mpr later]
  cases value with
  | array items => simp [Source.ofJson, listOfSource?, Lists, items_iff]
  | _ => simp [Source.ofJson, listOfSource?, Lists]

/-- An endpoint but for its flag. -/
def idle (endpoint : Endpoint) : Endpoint := { endpoint with isActive := false }

/-- The endpoint at a place of a list is active. -/
def IsActiveAt (endpoints : List Endpoint) (place : Nat) : Prop :=
  (endpoints.map (·.isActive))[place]? = some true

end Endpoint

namespace Registry
open Endpoint (IsActiveAt Lists)
variable {registry : Registry} {store : Store}

theorem keepFirstActive_idle (endpoints : List Endpoint) :
    (keepFirstActive endpoints).map Endpoint.idle = endpoints.map Endpoint.idle := by
  induction endpoints with
  | nil => rfl
  | cons endpoint rest ih =>
    rw [keepFirstActive]
    split
    · simp [Endpoint.idle]
    · rw [List.map_cons, ih, List.map_cons]

theorem isActiveAt_keepFirstActive_iff (endpoints : List Endpoint) (place : Nat) :
    IsActiveAt (keepFirstActive endpoints) place ↔
      IsActiveAt endpoints place ∧ ∀ earlier < place, ¬ IsActiveAt endpoints earlier := by
  unfold IsActiveAt
  induction endpoints generalizing place with
  | nil => simp [keepFirstActive]
  | cons endpoint rest ih =>
    rw [keepFirstActive]
    by_cases active : endpoint.isActive
    · cases place with
      | zero => simp [active]
      | succ place =>
        have cleared : ((rest.map ({ · with isActive := false } : Endpoint → Endpoint)).map
            (·.isActive))[place]? ≠ some true := by simp
        simp only [active, if_true, List.map_cons, List.getElem?_cons_succ]
        exact iff_of_false cleared fun both => both.2 0 (Nat.succ_pos _) rfl
    · cases place with
      | zero => simp [active]
      | succ place =>
        simp only [active, Bool.false_eq_true, if_false, List.map_cons, List.getElem?_cons_succ, ih]
        refine and_congr_right fun _ => ⟨fun none earlier before => ?_, fun none earlier before => ?_⟩
        · cases earlier with
          | zero => simp
          | succ earlier => exact none earlier (Nat.lt_of_succ_lt_succ before)
        · exact none (earlier + 1) (Nat.succ_lt_succ before)

theorem keepFirstActive_ne_nil {endpoints : List Endpoint} (nonempty : endpoints ≠ []) :
    keepFirstActive endpoints ≠ [] := by
  intro none
  have idle := keepFirstActive_idle endpoints
  rw [none] at idle
  exact nonempty (List.map_eq_nil_iff.mp idle.symm)

theorem ofValue_of_lists {value : Json} {endpoints : List Endpoint} (lists : Lists value endpoints)
    (nonempty : endpoints ≠ []) : ofValue value = ofList endpoints := by
  rw [ofValue, Endpoint.listOfSource?_eq_some_iff.mpr lists]
  cases endpoints with
  | nil => exact absurd rfl nonempty
  | cons endpoint rest => rfl

private theorem ofValue_of_not_lists {value : Json} (nothing : ∀ endpoints, Lists value endpoints → endpoints = []) :
    ofValue value = default := by
  rw [ofValue]
  cases read : Endpoint.listOfSource? (.ofJson value) with
  | none => rfl
  | some endpoints => rw [nothing endpoints (Endpoint.listOfSource?_eq_some_iff.mp read)]

theorem ofAnswer_cases (answer : Except StoreError (Option Json)) :
    (∃ value endpoints, answer = .ok (some value) ∧ Lists value endpoints ∧ endpoints ≠ [] ∧
      ofAnswer answer = ofList endpoints) ∨
    ((∀ value endpoints, answer = .ok (some value) → Lists value endpoints → endpoints = []) ∧
      ofAnswer answer = default) := by
  match answer with
  | .error error => exact .inr ⟨nofun, rfl⟩
  | .ok none => exact .inr ⟨nofun, rfl⟩
  | .ok (some value) =>
    by_cases listed : ∃ endpoints, Lists value endpoints ∧ endpoints ≠ []
    · obtain ⟨endpoints, lists, nonempty⟩ := listed
      exact .inl ⟨value, endpoints, rfl, lists, nonempty, ofValue_of_lists lists nonempty⟩
    · have nothing : ∀ endpoints, Lists value endpoints → endpoints = [] :=
        fun endpoints lists => Classical.byContradiction fun nonempty => listed ⟨endpoints, lists, nonempty⟩
      refine .inr ⟨?_, ofValue_of_not_lists nothing⟩
      rintro _ endpoints ⟨⟩ lists
      exact nothing endpoints lists

theorem endpoints_ofAnswer_ne_nil (answer : Except StoreError (Option Json)) :
    (ofAnswer answer).endpoints ≠ [] := by
  obtain ⟨value, endpoints, -, -, nonempty, taken⟩ | ⟨-, taken⟩ := ofAnswer_cases answer
  · rw [taken]
    exact keepFirstActive_ne_nil nonempty
  · rw [taken]
    decide

theorem single_active_ofAnswer (answer : Except StoreError (Option Json)) :
    (ofAnswer answer).activeIds.length ≤ 1 := by
  obtain ⟨value, endpoints, -, -, -, taken⟩ | ⟨-, taken⟩ := ofAnswer_cases answer
  · rw [taken]
    exact single_active_ofList endpoints
  · rw [taken]
    decide

end Registry

theorem Store.isWritable_of_saved {store : Store} {value : Json}
    (saved : (store.save storeKey value).1 = .ok ()) : store.IsWritable := by
  cases store with
  | memory values => exact fun _ => rfl
  | files folder => exact isWritable_files.mpr (FileStore.save_eq_ok_iff.mp saved)

private theorem Store.load_of_not_saved {store : Store} {value : Json}
    (failed : (store.save storeKey value).1 ≠ .ok ()) :
    (store.save storeKey value).2.load storeKey = store.load storeKey := by
  cases store with
  | memory values => exact absurd rfl failed
  | files folder =>
    have undrafted : FileStore.draftName storeKey ≠ FileStore.fileName storeKey := by decide
    have failed := mt FileStore.save_eq_ok_iff.mpr failed
    cases folder with
    | obstructed fault => rfl
    | absent => simp [FileStore.entries, Dictionary.get?] at failed
    | directory entries =>
      simp only [save, load, FileStore.save, FileStore.nameFault?_draftName, FileStore.entries]
      split
      · rfl
      · rename_i folder _
        simp [FileStore.load, FileStore.read, FileStore.nameFault?_fileName, folder,
          Dictionary.get?_insert, undrafted]
      · rename_i draft folder
        exact absurd ⟨fun _ same => (by cases same), draft, folder⟩ failed

namespace Registry
open Endpoint (IsActiveAt Lists)

/-- A loaded list that was saved is loaded again, and so is what was there if it could not be saved. -/
theorem load_save_load (store : Store) : load ((load store).save store).2 = load store := by
  by_cases saved : ((load store).save store).1 = .ok ()
  · have single := single_active_ofAnswer (store.load storeKey)
    have some_ : (load store).endpoints ≠ [] := endpoints_ofAnswer_ne_nil (store.load storeKey)
    rw [load_save (Store.isWritable_of_saved saved), if_neg some_]
    exact ofList_of_single single
  · rw [save] at saved ⊢
    rw [load, Store.load_of_not_saved saved, load]

/-- Whatever a store answers, a list of at least one endpoint is taken from it, with one active endpoint
at most. It has the endpoints that the stored value lists, in their order and with the first active
flag alone, and it is the default list if no endpoint is listed. Saved to the store that it came from,
or to any other store that takes it, it is what is loaded there. -/
theorem load_of_answer (answer : Except StoreError (Option Json)) :
    let registry := ofAnswer answer
    registry.endpoints ≠ [] ∧ registry.activeIds.length ≤ 1 ∧
    (∀ value endpoints, answer = .ok (some value) → Lists value endpoints → endpoints ≠ [] →
      registry.endpoints.map Endpoint.idle = endpoints.map Endpoint.idle ∧
      ∀ place, IsActiveAt registry.endpoints place ↔
        IsActiveAt endpoints place ∧ ∀ earlier < place, ¬ IsActiveAt endpoints earlier) ∧
    ((∀ value endpoints, answer = .ok (some value) → Lists value endpoints → endpoints = []) →
      registry = default) ∧
    (∀ store : Store, store.load storeKey = answer →
      load store = registry ∧ load (registry.save store).2 = registry) ∧
    ∀ store : Store, (registry.save store).1 = .ok () → load (registry.save store).2 = registry := by
  intro registry
  refine ⟨endpoints_ofAnswer_ne_nil answer, single_active_ofAnswer answer, ?_, ?_, ?_, ?_⟩
  · rintro value endpoints rfl lists nonempty
    have taken : registry = ofList endpoints := ofValue_of_lists lists nonempty
    rw [taken]
    exact ⟨keepFirstActive_idle endpoints, isActiveAt_keepFirstActive_iff endpoints⟩
  · intro nothing
    obtain ⟨value, endpoints, answered, lists, nonempty, -⟩ | ⟨-, taken⟩ := ofAnswer_cases answer
    · exact absurd (nothing value endpoints answered lists) nonempty
    · exact taken
  · rintro store rfl
    exact ⟨rfl, load_save_load store⟩
  · intro store saved
    rw [load_save (Store.isWritable_of_saved saved), if_neg (endpoints_ofAnswer_ne_nil answer)]
    exact ofList_of_single (single_active_ofAnswer answer)

/-- Records in both notations, with a member that is not asked for and two claims to the focus. -/
theorem load_of_answer_mixed :
    let endpoints := [⟨"a", "Дом \"1\"", "http://a", false⟩, ⟨"b", "\n", "", true⟩, ⟨"b", "", "\\", true⟩]
    let value : Json := .array [
      .object [("id", .string "a"), ("isActive", .bool false), ("name", .string "Дом \"1\""),
        ("note", .null), ("url", .string "http://a")],
      .array [.string "b", .string "\n", .string "", .bool true],
      .array [.string "b", .string "", .string "\\", .bool true]]
    let registry := ofAnswer (.ok (some value))
    Lists value endpoints ∧ endpoints ≠ [] ∧
      registry.endpoints.map Endpoint.idle = endpoints.map Endpoint.idle ∧
      IsActiveAt registry.endpoints 1 ∧ ¬ IsActiveAt registry.endpoints 2 ∧
      (registry.save (.files .absent)).1 = .ok () ∧ load (registry.save (.files .absent)).2 = registry := by
  intro endpoints value registry
  have lists : Lists value endpoints :=
    ⟨_, rfl, .cons (.named _ ⟨"a", "Дом \"1\"", "http://a", false⟩ (by decide) rfl rfl rfl rfl)
      (.cons (.listed ⟨"b", "\n", "", true⟩) (.cons (.listed ⟨"b", "", "\\", true⟩) .nil))⟩
  have writable : (Store.files .absent).IsWritable :=
    Store.isWritable_files.mpr ⟨nofun, by decide, by decide⟩
  have saved : (registry.save (.files .absent)).1 = .ok () := writable registry.toValue
  obtain ⟨-, -, taken, -, -, again⟩ := load_of_answer (.ok (some value))
  obtain ⟨same, active⟩ := taken value endpoints rfl lists (by decide)
  have first : ∀ earlier < 1, ¬ IsActiveAt endpoints earlier := by
    intro earlier before
    rw [Nat.lt_one_iff.mp before]
    exact nofun
  exact ⟨lists, by decide, same, (active 1).mpr ⟨rfl, first⟩,
    fun second => ((active 2).mp second).2 1 (by decide) rfl, saved, again _ saved⟩

end Registry
end ProxyWatch
