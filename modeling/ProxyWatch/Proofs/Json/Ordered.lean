import ProxyWatch.Document.Message
import ProxyWatch.Proofs.Data.Ordered

/-! Documents whose objects list their members in ascending order, each name once.

All documents are such: those that are read from a text, and those that a patch makes of them. -/
namespace ProxyWatch.Json

inductive IsOrdered : Json → Prop where
  | null : IsOrdered .null
  | bool (value : Bool) : IsOrdered (.bool value)
  | number (value : Number) : IsOrdered (.number value)
  | string (value : String) : IsOrdered (.string value)
  | array {items : List Json} (all : ∀ item ∈ items, IsOrdered item) : IsOrdered (.array items)
  | object {members : Members} (order : Dictionary.IsOrdered members)
      (all : ∀ pair ∈ members, IsOrdered pair.2) : IsOrdered (.object members)

variable {document value : Json} {members : Members} {name : String}

theorem IsOrdered.items {items : List Json} (ordered : IsOrdered (.array items)) :
    ∀ item ∈ items, IsOrdered item := by
  cases ordered with
  | array all => exact all

theorem IsOrdered.order (ordered : IsOrdered (.object members)) : Dictionary.IsOrdered members := by
  cases ordered with
  | object order all => exact order

theorem IsOrdered.values (ordered : IsOrdered (.object members)) :
    ∀ pair ∈ members, IsOrdered pair.2 := by
  cases ordered with
  | object order all => exact all

theorem IsOrdered.get? (ordered : IsOrdered (.object members))
    (found : Dictionary.get? members name = some value) : IsOrdered value :=
  ordered.values _ (Dictionary.mem_of_get? found)

theorem IsOrdered.member? (ordered : document.IsOrdered) (found : document.member? name = some value) :
    value.IsOrdered := by
  cases document with
  | object members => exact ordered.get? found
  | null | bool | number | string | array => cases found

theorem IsOrdered.insert (ordered : IsOrdered (.object members)) (name : String)
    (new : value.IsOrdered) : IsOrdered (.object (Dictionary.insert members name value)) := by
  refine .object (Dictionary.isOrdered_insert ordered.order name value) ?_
  intro pair member
  rcases Dictionary.mem_insert member with rfl | old
  · exact new
  · exact ordered.values pair old

/-- The items of an array, or the values of the members of an object. -/
def Source.children : Source → List Source
  | .array items => items
  | .object members => members.map (·.2)
  | _ => []

mutual

theorem isOrdered_of_value? (limit : Nat) : ∀ (source : Source) (document : Json),
    source.value? limit = some document → document.IsOrdered
  | .null, document, read => by
    cases read
    exact .null
  | .bool value, document, read => by
    cases read
    exact .bool value
  | .number literal, document, read => by
    obtain ⟨value, -, rfl⟩ := Option.map_eq_some_iff.mp read
    exact .number value
  | .string text, document, read => by
    obtain ⟨value, -, rfl⟩ := Option.map_eq_some_iff.mp read
    exact .string value
  | .array sources, document, read => by
    cases limit with
    | zero => cases read
    | succ limit =>
      obtain ⟨items, itemsRead, rfl⟩ := Option.map_eq_some_iff.mp read
      exact .array (isOrdered_of_values? limit sources items itemsRead)
  | .object sources, document, read => by
    cases limit with
    | zero => cases read
    | succ limit =>
      obtain ⟨members, membersRead, rfl⟩ := Option.map_eq_some_iff.mp read
      refine .object (Dictionary.isOrdered_ofList members) ?_
      intro pair member
      exact isOrdered_of_members? limit sources members membersRead pair (Dictionary.mem_ofList member)

theorem isOrdered_of_values? (limit : Nat) : ∀ (sources : List Source) (items : List Json),
    Source.values? limit sources = some items → ∀ item ∈ items, item.IsOrdered
  | [], items, read => by
    cases read
    intro item member
    cases member
  | source :: rest, items, read => by
    simp only [Source.values?] at read
    split at read
    · rename_i head tail headRead tailRead
      cases read
      intro item member
      rcases List.mem_cons.mp member with rfl | later
      · exact isOrdered_of_value? limit source item headRead
      · exact isOrdered_of_values? limit rest tail tailRead item later
    · cases read

theorem isOrdered_of_members? (limit : Nat) : ∀ (sources : List (Option String × Source))
    (members : List (String × Json)), Source.members? limit sources = some members →
      ∀ pair ∈ members, pair.2.IsOrdered
  | [], members, read => by
    cases read
    intro pair member
    cases member
  | (name, source) :: rest, members, read => by
    simp only [Source.members?] at read
    split at read
    · rename_i name head tail headRead tailRead
      cases read
      intro pair member
      rcases List.mem_cons.mp member with rfl | later
      · exact isOrdered_of_value? limit source head headRead
      · exact isOrdered_of_members? limit rest tail tailRead pair later
    · cases read

end

end ProxyWatch.Json
