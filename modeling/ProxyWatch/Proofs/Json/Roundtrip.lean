import ProxyWatch.Proofs.Json.Layout
import ProxyWatch.Proofs.Json.Ordered

/-! Values are read from their texts as they were, and what is read from a text of whole numbers is
such a value. -/
namespace ProxyWatch.Json

namespace Source

/-- A text in which every number is whole, judged by the literal that it is written as. -/
inductive IsWhole : Source → Prop where
  | null : IsWhole .null
  | bool (value : Bool) : IsWhole (.bool value)
  | number {literal : Literal} (whole : literal.IsWhole) : IsWhole (.number literal.value?)
  | string (value : Option String) : IsWhole (.string value)
  | array {items : List Source} (all : ∀ item ∈ items, IsWhole item) : IsWhole (.array items)
  | object {members : List (Option String × Source)} (all : ∀ pair ∈ members, IsWhole pair.2) :
      IsWhole (.object members)

attribute [simp] IsWhole.null IsWhole.bool IsWhole.string

@[simp] theorem isWhole_array {items : List Source} :
    IsWhole (.array items) ↔ ∀ item ∈ items, item.IsWhole :=
  ⟨fun | .array all => all, .array⟩

@[simp] theorem isWhole_object {members : List (Option String × Source)} :
    IsWhole (.object members) ↔ ∀ pair ∈ members, pair.2.IsWhole :=
  ⟨fun | .object all => all, .object⟩

theorem IsWhole.of_child {source child : Source} (whole : source.IsWhole)
    (member : child ∈ source.children) : child.IsWhole := by
  cases whole with
  | null | bool | number | string => cases member
  | array all => exact all child member
  | object all =>
    obtain ⟨pair, listed, rfl⟩ := List.mem_map.mp member
    exact all pair listed

end Source

mutual

theorem isPlain_of_value? (limit : Nat) : ∀ (source : Source) (value : Json), source.IsWhole →
    source.value? limit = some value → value.IsPlain limit
  | .null, value, _, read => by
    cases read
    exact .null
  | .bool b, value, _, read => by
    cases read
    exact .bool b
  | .number _, value, .number whole, read => by
    obtain ⟨number, known, numberWhole⟩ := Literal.value?_of_isWhole whole
    rw [Source.value?, known] at read
    cases read
    exact .number numberWhole
  | .string text, value, _, read => by
    obtain ⟨text, -, rfl⟩ := Option.map_eq_some_iff.mp read
    exact .string text
  | .array sources, value, .array all, read => by
    cases limit with
    | zero => cases read
    | succ limit =>
      obtain ⟨items, itemsRead, rfl⟩ := Option.map_eq_some_iff.mp read
      exact .array (isPlain_of_values? limit sources items all itemsRead)
  | .object sources, value, .object all, read => by
    cases limit with
    | zero => cases read
    | succ limit =>
      obtain ⟨members, membersRead, rfl⟩ := Option.map_eq_some_iff.mp read
      refine .object fun pair member => ?_
      exact isPlain_of_members? limit sources members all membersRead pair
        (Dictionary.mem_ofList member)

theorem isPlain_of_values? (limit : Nat) : ∀ (sources : List Source) (items : List Json),
    (∀ source ∈ sources, source.IsWhole) → Source.values? limit sources = some items →
      ∀ item ∈ items, item.IsPlain limit
  | [], items, _, read => by
    cases read
    intro item member
    cases member
  | source :: rest, items, whole, read => by
    simp only [Source.values?] at read
    split at read
    · rename_i head tail headRead tailRead
      cases read
      intro item member
      rcases List.mem_cons.mp member with rfl | later
      · exact isPlain_of_value? limit source item (whole source List.mem_cons_self) headRead
      · exact isPlain_of_values? limit rest tail
          (fun other listed => whole other (List.mem_cons_of_mem _ listed)) tailRead item later
    · cases read

theorem isPlain_of_members? (limit : Nat) : ∀ (sources : List (Option String × Source))
    (members : List (String × Json)), (∀ pair ∈ sources, pair.2.IsWhole) →
      Source.members? limit sources = some members → ∀ pair ∈ members, pair.2.IsPlain limit
  | [], members, _, read => by
    cases read
    intro pair member
    cases member
  | (name, source) :: rest, members, whole, read => by
    simp only [Source.members?] at read
    split at read
    · rename_i name head tail headRead tailRead
      cases read
      intro pair member
      rcases List.mem_cons.mp member with rfl | later
      · exact isPlain_of_value? limit source head (whole _ List.mem_cons_self) headRead
      · exact isPlain_of_members? limit rest tail
          (fun other listed => whole other (List.mem_cons_of_mem _ listed)) tailRead pair later
    · cases read

end

mutual

/-- A higher limit changes no value. -/
theorem value?_mono {limit higher : Nat} (more : limit ≤ higher) : ∀ (source : Source) (value : Json),
    source.value? limit = some value → source.value? higher = some value
  | .null, _, read | .bool _, _, read | .number _, _, read | .string _, _, read => by
    simpa only [Source.value?] using read
  | .array sources, value, read => by
    match limit, higher with
    | 0, _ => cases read
    | limit + 1, higher + 1 =>
      obtain ⟨items, itemsRead, rfl⟩ := Option.map_eq_some_iff.mp read
      rw [Source.value?, values?_mono (Nat.le_of_succ_le_succ more) sources items itemsRead,
        Option.map_some]
  | .object sources, value, read => by
    match limit, higher with
    | 0, _ => cases read
    | limit + 1, higher + 1 =>
      obtain ⟨members, membersRead, rfl⟩ := Option.map_eq_some_iff.mp read
      rw [Source.value?, members?_mono (Nat.le_of_succ_le_succ more) sources members membersRead,
        Option.map_some]

theorem values?_mono {limit higher : Nat} (more : limit ≤ higher) : ∀ (sources : List Source)
    (items : List Json), Source.values? limit sources = some items →
      Source.values? higher sources = some items
  | [], _, read => read
  | source :: rest, items, read => by
    simp only [Source.values?] at read
    split at read
    · rename_i head tail headRead tailRead
      rw [Source.values?, value?_mono more source head headRead, values?_mono more rest tail tailRead]
      exact read
    · cases read

theorem members?_mono {limit higher : Nat} (more : limit ≤ higher) :
    ∀ (sources : List (Option String × Source)) (members : List (String × Json)),
      Source.members? limit sources = some members → Source.members? higher sources = some members
  | [], _, read => read
  | (name, source) :: rest, members, read => by
    simp only [Source.members?] at read
    split at read
    · rename_i name head tail headRead tailRead
      cases read
      simp only [Source.members?, value?_mono more source head headRead,
        members?_mono more rest tail tailRead]
    · cases read

end

private theorem exists_value?_of_values? {limit : Nat} {sources : List Source} {items : List Json}
    (read : Source.values? limit sources = some items) :
    ∀ source ∈ sources, ∃ found, source.value? limit = some found := by
  induction sources generalizing items with
  | nil => exact nofun
  | cons first rest ih =>
    simp only [Source.values?] at read
    split at read
    · rename_i head tail headRead tailRead
      intro source member
      rcases List.mem_cons.mp member with rfl | later
      · exact ⟨head, headRead⟩
      · exact ih tailRead source later
    · cases read

private theorem exists_value?_of_members? {limit : Nat} {sources : List (Option String × Source)}
    {members : List (String × Json)} (read : Source.members? limit sources = some members) :
    ∀ pair ∈ sources, ∃ found, pair.2.value? limit = some found := by
  induction sources generalizing members with
  | nil => exact nofun
  | cons first rest ih =>
    obtain ⟨name, first⟩ := first
    simp only [Source.members?] at read
    split at read
    · rename_i name head tail headRead tailRead
      intro pair member
      rcases List.mem_cons.mp member with rfl | later
      · exact ⟨head, headRead⟩
      · exact ih tailRead pair later
    · cases read

/-- The children of a tree with a value have values of their own, one level below. -/
theorem value?_of_child {limit : Nat} {source child : Source} {value : Json}
    (read : source.value? limit = some value) (member : child ∈ source.children) :
    ∃ below found, limit = below + 1 ∧ child.value? below = some found := by
  cases source with
  | null | bool | number | string => cases member
  | array sources =>
    cases limit with
    | zero => cases read
    | succ limit =>
      obtain ⟨items, itemsRead, -⟩ := Option.map_eq_some_iff.mp read
      obtain ⟨found, childRead⟩ := exists_value?_of_values? itemsRead child member
      exact ⟨limit, found, rfl, childRead⟩
  | object sources =>
    cases limit with
    | zero => cases read
    | succ limit =>
      obtain ⟨members, membersRead, -⟩ := Option.map_eq_some_iff.mp read
      obtain ⟨pair, listed, rfl⟩ := List.mem_map.mp member
      obtain ⟨found, childRead⟩ := exists_value?_of_members? membersRead pair listed
      exact ⟨limit, found, rfl, childRead⟩

mutual

theorem value?_ofJson {limit : Nat} : ∀ (value : Json), value.IsOrdered → value.IsPlain limit →
    (Source.ofJson value).value? limit = some value
  | .null, _, _ | .bool _, _, _ | .number _, _, _ | .string _, _, _ => rfl
  | .array items, ordered, .array all => by
    rw [Source.ofJson, Source.value?, values?_ofItems items ordered.items all, Option.map_some]
  | .object members, ordered, .object all => by
    rw [Source.ofJson, Source.value?, members?_ofMembers members ordered.values all, Option.map_some,
      Dictionary.ofList_of_isOrdered ordered.order]

theorem values?_ofItems {limit : Nat} : ∀ (items : List Json), (∀ item ∈ items, item.IsOrdered) →
    (∀ item ∈ items, item.IsPlain limit) →
      Source.values? limit (Source.ofItems items) = some items
  | [], _, _ => rfl
  | item :: rest, ordered, plain => by
    have head := value?_ofJson item (ordered item List.mem_cons_self) (plain item List.mem_cons_self)
    have tail := values?_ofItems rest (fun other listed => ordered other (List.mem_cons_of_mem _ listed))
      (fun other listed => plain other (List.mem_cons_of_mem _ listed))
    rw [Source.ofItems, Source.values?, head, tail]

theorem members?_ofMembers {limit : Nat} : ∀ (members : List (String × Json)),
    (∀ pair ∈ members, pair.2.IsOrdered) → (∀ pair ∈ members, pair.2.IsPlain limit) →
      Source.members? limit (Source.ofMembers members) = some members
  | [], _, _ => rfl
  | (name, value) :: rest, ordered, plain => by
    have head := value?_ofJson value (ordered (name, value) List.mem_cons_self)
      (plain (name, value) List.mem_cons_self)
    have tail := members?_ofMembers rest
      (fun other listed => ordered other (List.mem_cons_of_mem _ listed))
      (fun other listed => plain other (List.mem_cons_of_mem _ listed))
    simp only [Source.ofMembers, Source.members?, head, tail]

end

variable {value : Json}

/-- The text of any value is read, to a tree that differs from the value in its numbers alone. -/
theorem parse?_text (value : Json) : Source.parse? value.toText = some (.ofWritten value) := by
  rw [toText, Layout.render_eq_write 0]
  exact Layout.parse?_write .compact value

theorem sourceOf_toText {limit : Nat} (plain : value.IsPlain limit) :
    Source.parse? value.toText = some (.ofJson value) := by
  rw [parse?_text, ofWritten_of_isPlain plain]

private theorem sourceOf_toIndentedText {limit : Nat} (plain : value.IsPlain limit) :
    Source.parse? value.toIndentedText = some (.ofJson value) := by
  rw [toIndentedText, Layout.renderIndented_eq_write 0, Layout.parse?_write, ofWritten_of_isPlain plain]

theorem parse?_toIndentedText (ordered : value.IsOrdered) (plain : value.IsPlain Source.nestingLimit) :
    parse? value.toIndentedText = some value := by
  rw [parse?, sourceOf_toIndentedText plain]
  exact value?_ofJson value ordered plain

end ProxyWatch.Json
