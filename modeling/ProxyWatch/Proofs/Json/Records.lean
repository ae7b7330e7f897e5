import Mathlib.Data.List.Count
import ProxyWatch.Json.Record
import ProxyWatch.Proofs.Json.Roundtrip

/-! Records that are read from values, and from what is read back of them.

The text of a value brings its members back with their names. Its numbers may come back as others, but no place for a
text is filled by a number, so that a record of texts is the same from a value and from its text. A tree that no value
was written to gives its members as they are written, of which the value keeps the last of each name. -/
namespace ProxyWatch.Json.Source

theorem names?_map (f : Json → Source) (members : Members) :
    names? (members.map fun pair => (some pair.1, f pair.2)) = some (Dictionary.keys members) := by
  induction members with
  | nil => rfl
  | cons member rest ih =>
    rw [names?] at ih ⊢
    rw [List.map_cons, List.mapM_cons, ih]
    rfl

theorem find?_map (f : Json → Source) (members : Members) (name : String) :
    ((members.map fun pair => (some pair.1, f pair.2)).find? (·.1 == some name)).map (·.2) =
      (members.get? name).map f := by
  induction members with
  | nil => rfl
  | cons member rest ih =>
    obtain ⟨head, value⟩ := member
    by_cases same : head = name
    · simp [Dictionary.get?, same]
    · simpa [Dictionary.get?, same] using ih

/-- An object gives the member of each declared name, if none of these names is repeated, whatever trees stand for
the values. -/
theorem slots?_map (f : Json → Source) (declared : List String) (members : Members) :
    slots? declared (.object (members.map fun pair => (some pair.1, f pair.2))) =
      if declared.all fun name => (Dictionary.keys members).count name ≤ 1 then
        some (declared.map fun name => (members.get? name).map f)
      else none := by
  rw [slots?, names?_map]
  simp only [Option.pure_def, Option.bind_eq_bind, Option.bind_some, find?_map]

theorem ofMembers_eq_map (members : Members) :
    ofMembers members = members.map fun pair => (some pair.1, ofJson pair.2) := by
  induction members with
  | nil => rfl
  | cons member rest ih => rw [ofMembers, ih, List.map_cons]

theorem ofWrittenMembers_eq_map (members : Members) :
    ofWrittenMembers members = members.map fun pair => (some pair.1, ofWritten pair.2) := by
  induction members with
  | nil => rfl
  | cons member rest ih => rw [ofWrittenMembers, ih, List.map_cons]

theorem slots?_object (declared : List String) (members : Members) :
    (ofJson (.object members)).slots? declared =
      if declared.all fun name => (Dictionary.keys members).count name ≤ 1 then
        some (declared.map fun name => (members.get? name).map ofJson)
      else none := by
  rw [ofJson, ofMembers_eq_map, slots?_map]

theorem slots?_written (declared : List String) (members : Members) :
    (ofWritten (.object members)).slots? declared =
      if declared.all fun name => (Dictionary.keys members).count name ≤ 1 then
        some (declared.map fun name => (members.get? name).map ofWritten)
      else none := by
  rw [ofWritten, ofWrittenMembers_eq_map, slots?_map]

theorem ofItems_eq_map (items : List Json) : ofItems items = items.map ofJson := by
  induction items with
  | nil => rfl
  | cons item rest ih => rw [ofItems, ih, List.map_cons]

theorem ofWrittenItems_eq_map (items : List Json) : ofWrittenItems items = items.map ofWritten := by
  induction items with
  | nil => rfl
  | cons item rest ih => rw [ofWrittenItems, ih, List.map_cons]

/-- An array gives its items to the declared names in turn. -/
theorem slots?_array (declared : List String) (items : List Json) :
    (ofJson (.array items)).slots? declared =
      if items.length ≤ declared.length then
        some (items.map (some <| ofJson ·) ++ List.replicate (declared.length - items.length) none)
      else none := by
  simp [ofJson, slots?, ofItems_eq_map, Function.comp_def]

theorem text?_ofJson_eq_some_iff {value : Json} {text : String} :
    (ofJson value).text? = some text ↔ value = .string text := by
  cases value <;> simp [ofJson, text?]

theorem bool?_ofJson_eq_some_iff {value : Json} {flag : Bool} :
    (ofJson value).bool? = some flag ↔ value = .bool flag := by
  cases value <;> simp [ofJson, bool?]

theorem optional?_string (text : Option String) :
    optional? text? (text.map fun text => .string (some text)) = some text := by
  cases text with
  | none => rfl
  | some text => rfl

theorem texts?_ofJson_eq_some_iff {value : Json} {texts : List String} :
    (ofJson value).texts? = some texts ↔ value = .array (texts.map .string) := by
  cases value with
  | null | bool | number | string | object => simp [ofJson, texts?]
  | array items =>
    rw [ofJson, texts?, ofItems_eq_map, List.mapM_map, Json.array.injEq]
    induction items generalizing texts with
    | nil => cases texts <;> simp
    | cons item rest ih =>
      simp only [List.mapM_cons, Function.comp_apply, Option.bind_eq_bind, Option.pure_def,
        Option.bind_eq_some_iff, Option.some.injEq, text?_ofJson_eq_some_iff]
      constructor
      · rintro ⟨first, rfl, others, read, rfl⟩
        rw [List.map_cons, ih.mp read]
      · intro same
        obtain ⟨first, others, rfl, shown, listed⟩ := List.map_eq_cons_iff.mp same.symm
        exact ⟨first, shown.symm, others, ih.mpr listed.symm, rfl⟩

private theorem text?_ofWritten (value : Json) : (ofWritten value).text? = (ofJson value).text? := by
  cases value with
  | null | bool | number | string | array | object => rfl

private theorem texts?_ofWritten (value : Json) : (ofWritten value).texts? = (ofJson value).texts? := by
  cases value with
  | null | bool | number | string | object => rfl
  | array items =>
    simp only [ofWritten, ofJson, texts?, ofWrittenItems_eq_map, ofItems_eq_map, List.mapM_map]
    simp only [Function.comp_def, text?_ofWritten]

theorem optional?_ofWritten (member : Option Json) :
    optional? text? (member.map ofWritten) = optional? text? (member.map ofJson) := by
  cases member with
  | none => rfl
  | some value =>
    cases value with
    | null | bool | number | string | array | object => rfl

theorem defaulting?_ofWritten (member : Option Json) :
    defaulting? [] texts? (member.map ofWritten) = defaulting? [] texts? (member.map ofJson) := by
  cases member with
  | none => rfl
  | some value => exact texts?_ofWritten value

section
variable {written : List (Option String × Source)} {names : List String} {source : Source} {limit : Nat}

theorem names?_eq_some_iff : names? written = some names ↔ written.map (·.1) = names.map some := by
  induction written generalizing names with
  | nil => cases names <;> simp [names?]
  | cons member rest ih =>
    rw [names?] at ih ⊢
    simp only [List.mapM_cons, Option.bind_eq_bind, Option.pure_def, Option.bind_eq_some_iff, Option.some.injEq, ih,
      List.map_cons]
    constructor
    · rintro ⟨first, named, others, listed, rfl⟩
      rw [named, listed, List.map_cons]
    · intro same
      obtain ⟨first, others, rfl, named, listed⟩ := List.map_eq_cons_iff.mp same.symm
      exact ⟨first, named.symm, others, listed.symm, rfl⟩

private theorem exists_names? (named : ∀ member ∈ written, member.1 ≠ none) : ∃ names, names? written = some names := by
  induction written with
  | nil => exact ⟨[], rfl⟩
  | cons member rest ih =>
    obtain ⟨name, first⟩ := Option.ne_none_iff_exists'.mp (named member List.mem_cons_self)
    obtain ⟨others, listed⟩ := ih fun other later => named other (List.mem_cons_of_mem member later)
    exact ⟨name :: others, names?_eq_some_iff.mpr (by
      rw [List.map_cons, List.map_cons, first, names?_eq_some_iff.mp listed])⟩

/-- A member whose name is not repeated is the one that is found. -/
theorem find?_of_count {member : Option String × Source} (among : member ∈ written)
    (once : (written.map (·.1)).count member.1 ≤ 1) : written.find? (·.1 == member.1) = some member := by
  induction written with
  | nil => cases among
  | cons first rest ih =>
    rw [List.map_cons, List.count_cons] at once
    by_cases same : first.1 = member.1
    · rcases List.mem_cons.mp among with rfl | later
      · simp
      · have more : 0 < (rest.map (·.1)).count member.1 := List.count_pos_iff.mpr (List.mem_map_of_mem later)
        rw [if_pos (beq_iff_eq.mpr same)] at once
        omega
    · have later : member ∈ rest := (List.mem_cons.mp among).resolve_left fun eq => same (congrArg Prod.fst eq.symm)
      rw [List.find?_cons_of_neg (by simpa using same)]
      exact ih later (by omega)

theorem count_names? (listed : names? written = some names) (name : String) :
    (written.map (·.1)).count (some name) = names.count name := by
  rw [names?_eq_some_iff.mp listed, List.count_map_of_injective _ _ fun _ _ => Option.some.inj]

/-- An object gives the first member of each declared name, if all its names are texts and none of these is repeated. -/
theorem slots?_of_object_iff {declared : List String} {slots : List (Option Source)} :
    (Source.object written).slots? declared = some slots ↔ (∀ member ∈ written, member.1 ≠ none) ∧
      (∀ name ∈ declared, (written.map (·.1)).count (some name) ≤ 1) ∧
      slots = declared.map fun name => (written.find? (·.1 == some name)).map (·.2) := by
  constructor
  · intro read
    obtain ⟨names, listed, placed⟩ := Option.bind_eq_some_iff.mp read
    split at placed
    · rename_i once
      cases placed
      refine ⟨?_, fun name among => ?_, rfl⟩
      · intro member among missing
        have in_names := List.mem_map_of_mem (f := Prod.fst) among
        rw [names?_eq_some_iff.mp listed, missing] at in_names
        simp at in_names
      · rw [count_names? listed]
        exact of_decide_eq_true (List.all_eq_true.mp once name among)
    · cases placed
  · rintro ⟨named, once, rfl⟩
    obtain ⟨names, listed⟩ := exists_names? named
    have single : declared.all (fun name => names.count name ≤ 1) = true :=
      List.all_eq_true.mpr fun name among => decide_eq_true (count_names? listed name ▸ once name among)
    simp only [slots?, listed, Option.bind_eq_bind, Option.bind_some, single, if_true, Option.pure_def]

theorem map_of_members? {members : List (String × Json)} (read : members? limit written = some members) :
    written.map (fun member => (member.1, member.2.value? limit)) =
      members.map fun pair => (some pair.1, some pair.2) := by
  induction written generalizing members with
  | nil =>
    cases read
    rfl
  | cons member rest ih =>
    obtain ⟨name, source⟩ := member
    simp only [members?] at read
    split at read
    · rename_i valueRead restRead
      cases read
      rw [List.map_cons, List.map_cons, ih restRead, valueRead]
    · cases read

theorem named_of_members? {members : List (String × Json)} (read : members? limit written = some members) :
    ∀ member ∈ written, member.1 ≠ none := by
  intro member among
  have listed := List.mem_map_of_mem (f := fun member => (member.1, member.2.value? limit)) among
  rw [map_of_members? read] at listed
  obtain ⟨pair, -, same⟩ := List.mem_map.mp listed
  rw [← (Prod.mk.inj same).1]
  exact Option.some_ne_none _

theorem mem_iff_of_members? {members : List (String × Json)} (read : members? limit written = some members)
    {name : String} {value : Json} :
    (name, value) ∈ members ↔ ∃ source, (some name, source) ∈ written ∧ source.value? limit = some value := by
  have kept : (some name, some value) ∈ members.map (fun pair => (some pair.1, some pair.2)) ↔
      (name, value) ∈ members := by simp
  rw [← kept, ← map_of_members? read, List.mem_map]
  constructor
  · rintro ⟨⟨_, source⟩, among, same⟩
    obtain ⟨rfl, valued⟩ := Prod.mk.inj same
    exact ⟨source, among, valued⟩
  · rintro ⟨source, among, valued⟩
    exact ⟨_, among, Prod.ext rfl valued⟩

theorem values?_eq_single_iff {items : List Source} {value : Json} :
    values? limit items = some [value] ↔ ∃ item, items = [item] ∧ item.value? limit = some value := by
  match items with
  | [] => simp [values?]
  | [item] => cases found : item.value? limit <;> simp [values?, found]
  | first :: second :: rest =>
    constructor
    · intro read
      simp only [values?] at read
      split at read
      · rename_i others _ othersRead
        obtain ⟨-, rfl⟩ := List.cons.inj (Option.some.inj read)
        split at othersRead <;> cases othersRead
      · cases read
    · rintro ⟨item, same, -⟩
      cases same

theorem text?_eq_some_iff {text : String} : source.text? = some text ↔ source = .string (some text) := by
  cases source <;> simp [text?]

theorem value?_eq_string_iff {text : String} :
    source.value? limit = some (.string text) ↔ source = .string (some text) := by
  cases source with
  | null | bool => simp [value?]
  | number value => cases value <;> simp [value?]
  | string value => cases value <;> simp [value?]
  | array items => cases limit <;> simp [value?]
  | object members => cases limit <;> simp [value?]

/-- Only arrays and objects stand for arrays and objects. -/
theorem exists_array_of_value? {items : List Json} (valued : source.value? limit = some (.array items)) :
    ∃ sources, source = .array sources := by
  cases source with
  | array sources => exact ⟨sources, rfl⟩
  | null | bool => cases valued
  | number value => cases value <;> cases valued
  | string value => cases value <;> cases valued
  | object members =>
    cases limit with
    | zero => cases valued
    | succ limit =>
      obtain ⟨_, -, same⟩ := Option.map_eq_some_iff.mp valued
      cases same

theorem exists_object_of_value? {members : Members} (valued : source.value? limit = some (.object members)) :
    ∃ written, source = .object written := by
  cases source with
  | object written => exact ⟨written, rfl⟩
  | null | bool => cases valued
  | number value => cases value <;> cases valued
  | string value => cases value <;> cases valued
  | array items =>
    cases limit with
    | zero => cases valued
    | succ limit =>
      obtain ⟨_, -, same⟩ := Option.map_eq_some_iff.mp valued
      cases same

end

end ProxyWatch.Json.Source
