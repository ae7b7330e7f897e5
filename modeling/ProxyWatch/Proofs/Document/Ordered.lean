import ProxyWatch.Proofs.Data.Attempt
import ProxyWatch.Proofs.Json.Ordered

/-! Patches keep the members of all objects in order, and messages bring nothing that is not. -/
namespace ProxyWatch
open Json (Source)

namespace Json
variable {document next value : Json} {token : String} {change : Json → Option Json}

theorem IsOrdered.at? (ordered : document.IsOrdered) {path : List String}
    (found : document.at? path = some value) : value.IsOrdered := by
  induction path generalizing document with
  | nil =>
    cases found
    exact ordered
  | cons token rest ih =>
    cases document with
    | null | bool | number | string => cases found
    | object members =>
      obtain ⟨child, present, found⟩ := Option.bind_eq_some_iff.mp found
      exact ih (ordered.get? present) found
    | array items =>
      obtain ⟨index, -, found⟩ := Option.bind_eq_some_iff.mp found
      obtain ⟨child, present, found⟩ := Option.bind_eq_some_iff.mp found
      exact ih (ordered.items child (List.mem_of_getElem? present)) found

/-- A change that keeps the order where it happens keeps it in the whole document. -/
theorem IsOrdered.modify?
    (kept : ∀ {value next : Json}, value.IsOrdered → change value = some next → next.IsOrdered)
    (ordered : document.IsOrdered) {path : List String}
    (changed : document.modify? change path = some next) : next.IsOrdered := by
  induction path generalizing document next with
  | nil => exact kept ordered changed
  | cons token rest ih =>
    cases document with
    | null | bool | number | string => cases changed
    | object members =>
      obtain ⟨child, present, changed⟩ := Option.bind_eq_some_iff.mp changed
      obtain ⟨new, childChanged, same⟩ := Option.bind_eq_some_iff.mp changed
      cases same
      exact ordered.insert token (ih (ordered.get? present) childChanged)
    | array items =>
      obtain ⟨index, -, changed⟩ := Option.bind_eq_some_iff.mp changed
      obtain ⟨child, present, changed⟩ := Option.bind_eq_some_iff.mp changed
      obtain ⟨new, childChanged, same⟩ := Option.bind_eq_some_iff.mp changed
      cases same
      have newOrdered := ih (ordered.items child (List.mem_of_getElem? present)) childChanged
      refine .array fun item member => ?_
      rcases List.mem_or_eq_of_mem_set member with old | rfl
      · exact ordered.items item old
      · exact newOrdered

theorem IsOrdered.insertChild? (new : value.IsOrdered) (ordered : document.IsOrdered)
    (inserted : Json.insertChild? token value document = some next) : next.IsOrdered := by
  cases document with
  | null | bool | number | string => cases inserted
  | object members =>
    cases inserted
    exact ordered.insert token new
  | array items =>
    simp only [Json.insertChild?] at inserted
    split at inserted
    · cases inserted
      refine .array fun item member => ?_
      rcases List.mem_append.mp member with old | last
      · exact ordered.items item old
      · exact List.mem_singleton.mp last ▸ new
    · obtain ⟨index, -, inserted⟩ := Option.bind_eq_some_iff.mp inserted
      split at inserted
      · rename_i inside
        cases inserted
        refine .array fun item member => ?_
        rcases (List.mem_insertIdx inside).mp member with rfl | old
        · exact new
        · exact ordered.items item old
      · cases inserted

theorem IsOrdered.removeChild? (ordered : document.IsOrdered)
    (removed : Json.removeChild? token document = some next) : next.IsOrdered := by
  cases document with
  | null | bool | number | string => cases removed
  | object members =>
    simp only [Json.removeChild?] at removed
    split at removed
    · cases removed
      refine .object (Dictionary.isOrdered_filter ordered.order _) ?_
      exact fun pair member => ordered.values pair (List.mem_filter.mp member).1
    · cases removed
  | array items =>
    obtain ⟨index, -, removed⟩ := Option.bind_eq_some_iff.mp removed
    split at removed
    · cases removed
      exact .array fun item member => ordered.items item (List.mem_of_mem_eraseIdx member)
    · cases removed

end Json

namespace Json.Source
variable {source child : Source} {declared : List String} {slots : List (Option Source)}

theorem mem_children_of_slots? (found : source.slots? declared = some slots)
    (member : some child ∈ slots) : child ∈ source.children := by
  cases source with
  | null | bool | number | string => cases found
  | array items =>
    simp only [slots?] at found
    split at found
    · cases found
      rcases List.mem_append.mp member with given | missing
      · obtain ⟨item, listed, same⟩ := List.mem_map.mp given
        cases same
        exact listed
      · cases List.eq_of_mem_replicate missing
    · cases found
  | object members =>
    obtain ⟨names, -, found⟩ := Option.bind_eq_some_iff.mp found
    split at found
    · cases found
      obtain ⟨name, -, slot⟩ := List.mem_map.mp member
      obtain ⟨pair, listed, rfl⟩ := Option.map_eq_some_iff.mp slot
      exact List.mem_map_of_mem (List.mem_of_find?_eq_some listed)
    · cases found

end Json.Source

namespace Pointer
variable {path : Pointer} {document next value : Json}

theorem isOrdered_of_insert? (new : value.IsOrdered) (ordered : document.IsOrdered)
    (inserted : path.insert? value document = some next) : next.IsOrdered := by
  unfold insert? at inserted
  split at inserted
  · cases inserted
    exact new
  · exact ordered.modify? (.insertChild? new) inserted

theorem isOrdered_of_remove? (ordered : document.IsOrdered)
    (removed : path.remove? document = some next) : next.IsOrdered := by
  obtain ⟨⟨parent, last⟩, -, removed⟩ := Option.bind_eq_some_iff.mp removed
  exact ordered.modify? (fun ordered removed => ordered.removeChild? removed) removed

theorem isOrdered_of_replace? (new : value.IsOrdered) (ordered : document.IsOrdered)
    (replaced : path.replace? value document = some next) : next.IsOrdered :=
  ordered.modify? (fun _ same => Option.some.inj same ▸ new) replaced

end Pointer

namespace Operation
variable {operation : Operation} {document next : Json} {limit : Nat}

/-- The value that an operation brings is in order. -/
def IsOrdered : Operation → Prop
  | add _ value | replace _ value | test _ value => value.IsOrdered
  | remove _ | move _ _ | copy _ _ => True

theorem orFail_eq_ok {failure : Failure} {found : Option α} {value : α}
    (success : orFail failure found = .ok value) : found = some value := by
  cases found with
  | none => cases success
  | some found =>
    cases success
    rfl

theorem IsOrdered.apply (brought : operation.IsOrdered) (ordered : document.IsOrdered)
    (applied : operation.apply document = .ok next) : next.IsOrdered := by
  cases operation with
  | add path value => exact Pointer.isOrdered_of_insert? brought ordered (orFail_eq_ok applied)
  | remove path => exact Pointer.isOrdered_of_remove? ordered (orFail_eq_ok applied)
  | replace path value => exact Pointer.isOrdered_of_replace? brought ordered (orFail_eq_ok applied)
  | move source path =>
    simp only [Operation.apply] at applied
    split at applied
    · cases applied
    obtain ⟨rest, removed, applied⟩ := bind_eq_ok applied
    obtain ⟨value, found, applied⟩ := bind_eq_ok applied
    exact Pointer.isOrdered_of_insert? (ordered.at? (orFail_eq_ok found))
      (Pointer.isOrdered_of_remove? ordered (orFail_eq_ok removed)) (orFail_eq_ok applied)
  | copy source path =>
    obtain ⟨value, found, applied⟩ := bind_eq_ok applied
    exact Pointer.isOrdered_of_insert? (ordered.at? (orFail_eq_ok found)) ordered
      (orFail_eq_ok applied)
  | test path expected =>
    obtain ⟨found, -, applied⟩ := bind_eq_ok applied
    split at applied
    · cases applied
      exact ordered
    · cases applied

/-- The value that an operation brings. -/
def value? : Operation → Option Json
  | add _ value | replace _ value | test _ value => some value
  | remove _ | move _ _ | copy _ _ => none

/-- An operation has read its value from a part of its tree. -/
theorem exists_child_of_ofSource? {source : Source} {value : Json}
    (read : ofSource? limit source = some operation)
    (brought : operation.value? = some value) :
    ∃ child ∈ source.children, child.value? limit = some value := by
  obtain ⟨-, -, read⟩ := Option.bind_eq_some_iff.mp read
  obtain ⟨name, -, read⟩ := Option.bind_eq_some_iff.mp read
  split at read
  case h_1 | h_3 | h_6 =>
    obtain ⟨slots, found, read⟩ := Option.bind_eq_some_iff.mp read
    split at read
    · obtain ⟨path, -, read⟩ := Option.bind_eq_some_iff.mp read
      obtain ⟨given, valueRead, same⟩ := Option.bind_eq_some_iff.mp read
      obtain ⟨child, rfl, childRead⟩ := Option.bind_eq_some_iff.mp valueRead
      cases same
      cases brought
      exact ⟨child, Source.mem_children_of_slots? found (by simp), childRead⟩
    · cases read
  case h_2 =>
    obtain ⟨slots, -, read⟩ := Option.bind_eq_some_iff.mp read
    split at read
    · obtain ⟨path, -, same⟩ := Option.bind_eq_some_iff.mp read
      cases same
      cases brought
    · cases read
  case h_4 | h_5 =>
    obtain ⟨slots, -, read⟩ := Option.bind_eq_some_iff.mp read
    split at read
    · obtain ⟨origin, -, read⟩ := Option.bind_eq_some_iff.mp read
      obtain ⟨path, -, same⟩ := Option.bind_eq_some_iff.mp read
      cases same
      cases brought
    · cases read
  case h_7 => cases read

theorem isOrdered_of_ofSource? {source : Source} (read : ofSource? limit source = some operation) :
    operation.IsOrdered := by
  have inOrder {value : Json} (brought : operation.value? = some value) : value.IsOrdered := by
    obtain ⟨child, -, childRead⟩ := exists_child_of_ofSource? read brought
    exact Json.isOrdered_of_value? limit child value childRead
  cases operation with
  | add path value | replace path value | test path value => exact inOrder rfl
  | remove | move | copy => trivial

end Operation

namespace Patch
variable {patch : Patch} {document next : Json} {limit : Nat}

theorem isOrdered_of_apply (brought : ∀ operation ∈ patch, operation.IsOrdered)
    (ordered : document.IsOrdered) (applied : patch.apply document = .ok next) : next.IsOrdered := by
  suffices ∀ index, applyFrom index document patch = .ok next → next.IsOrdered from this 0 applied
  clear applied
  induction patch generalizing document with
  | nil =>
    intro index applied
    cases applied
    exact ordered
  | cons operation rest ih =>
    intro index applied
    simp only [applyFrom] at applied
    split at applied
    · rename_i middle first
      exact ih (fun other member => brought other (List.mem_cons_of_mem _ member))
        ((brought operation List.mem_cons_self).apply ordered first) _ applied
    · cases applied

theorem isOrdered_of_ofSource? {source : Source} (read : ofSource? limit source = some patch) :
    ∀ operation ∈ patch, operation.IsOrdered := by
  cases source with
  | null | bool | number | string | object => cases read
  | array sources =>
    simp only [ofSource?] at read
    induction sources generalizing patch with
    | nil =>
      cases read
      intro operation member
      cases member
    | cons source rest ih =>
      rw [List.mapM_cons] at read
      obtain ⟨head, headRead, read⟩ := Option.bind_eq_some_iff.mp read
      obtain ⟨tail, tailRead, same⟩ := Option.bind_eq_some_iff.mp read
      cases same
      intro operation member
      rcases List.mem_cons.mp member with rfl | later
      · exact Operation.isOrdered_of_ofSource? headRead
      · exact ih tailRead operation later

end Patch

namespace Message
variable {payload : String}

/-- A message brings nothing that is not in order. -/
def IsOrdered : Message → Prop
  | full document => document.IsOrdered
  | patch operations => ∀ operation ∈ operations, operation.IsOrdered

theorem isOrdered_of_parse? {message : Message} (parsed : parse? payload = some message) :
    message.IsOrdered := by
  obtain ⟨source, -, read⟩ := Option.bind_eq_some_iff.mp parsed
  unfold ofSource? at read
  split at read
  · rename_i tree
    obtain ⟨document, documentRead, rfl⟩ := Option.map_eq_some_iff.mp read
    exact Json.isOrdered_of_value? _ tree document documentRead
  · rename_i tree
    obtain ⟨operations, operationsRead, rfl⟩ := Option.map_eq_some_iff.mp read
    exact Patch.isOrdered_of_ofSource? operationsRead
  · cases read

end Message
end ProxyWatch
