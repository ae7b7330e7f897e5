import ProxyWatch.Log.Entry
import ProxyWatch.Proofs.Document.Ordered
import ProxyWatch.Proofs.Json.Records

/-! Entries are read back from their own texts as they were, if their numbers are whole.

An entry is written as an object, whatever notation it has been read from. Its fields were one level below the
entry, and are so again, so that they stay within the nesting that is read. -/
namespace ProxyWatch.LogEntry
open Json (Source)

variable {source : Source} {entry : LogEntry} {payload : String}

/-- What an entry is written with and read back from: fields that list their members in order, with whole numbers,
and nest one level less than what is read. -/
structure Rereadable (entry : LogEntry) : Prop where
  ordered : (Json.object entry.fields).IsOrdered
  plain : (Json.object entry.fields).IsPlain (Source.nestingLimit - 1)

private theorem table_of_isWhole {limit : Nat} {tree : Source} {fields : Json.Members} (whole : tree.IsWhole)
    (read : tree.table? limit = some fields) :
    (Json.object fields).IsOrdered ∧ (Json.object fields).IsPlain limit := by
  cases tree with
  | null | bool | number | string | array => cases read
  | object members =>
    obtain ⟨value, valueRead, object⟩ := Option.bind_eq_some_iff.mp read
    cases value with
    | null | bool | number | string | array => cases object
    | object table =>
      cases object
      exact ⟨Json.isOrdered_of_value? limit _ _ valueRead, Json.isPlain_of_value? limit _ _ whole valueRead⟩

private theorem rereadable_of_ofSource? (whole : source.IsWhole) (read : ofSource? source = some entry) :
    entry.Rereadable := by
  obtain ⟨slots, found, read⟩ := Option.bind_eq_some_iff.mp read
  split at read
  · rename_i timestamp level message target fields
    simp only [Option.bind_eq_bind, Option.pure_def, Option.bind_eq_some_iff, Option.some.injEq] at read
    obtain ⟨-, -, -, -, -, -, -, -, -, -, -, -, table, tableRead, rfl⟩ := read
    cases fields with
    | none =>
      cases tableRead
      exact ⟨.object Dictionary.isOrdered_nil nofun, .object nofun⟩
    | some tree =>
      have child : tree ∈ source.children := Source.mem_children_of_slots? found (by simp)
      obtain ⟨ordered, plain⟩ := table_of_isWhole (whole.of_child child) tableRead
      exact ⟨ordered, plain⟩
  · cases read

private theorem slots?_toJson (entry : LogEntry) :
    (Source.ofJson entry.toJson).slots? members =
      some [some (.string (some entry.timestamp)), some (.string (some entry.levelText)),
        entry.message.map fun text => .string (some text), entry.target.map fun text => .string (some text),
        some (.ofJson (.object entry.fields))] := by
  obtain ⟨timestamp, levelText, message, target, fields⟩ := entry
  rw [toJson, Source.slots?_object]
  cases message with
  | none =>
    cases target with
    | none => rfl
    | some target => rfl
  | some message =>
    cases target with
    | none => rfl
    | some target => rfl

theorem Rereadable.isPlain_toJson (rereadable : entry.Rereadable) :
    entry.toJson.IsPlain Source.nestingLimit := by
  refine .object fun pair member => ?_
  simp only [List.mem_append, List.mem_cons, List.not_mem_nil, or_false] at member
  rcases member with (((rfl | rfl) | message) | target) | rfl
  · exact .string _
  · exact .string _
  · split at message
    · cases message
    · rw [List.mem_singleton.mp message]
      exact .string _
  · split at target
    · cases target
    · rw [List.mem_singleton.mp target]
      exact .string _
  · exact rereadable.plain

private theorem Rereadable.table?_fields (rereadable : entry.Rereadable) :
    (Source.ofJson (.object entry.fields)).table? (Source.nestingLimit - 1) = some entry.fields := by
  have read := Json.value?_ofJson _ rereadable.ordered rereadable.plain
  rw [Source.ofJson] at read ⊢
  rw [Source.table?, read]
  rfl

theorem Rereadable.ofSource?_toJson (rereadable : entry.Rereadable) :
    ofSource? (.ofJson entry.toJson) = some entry := by
  rw [ofSource?, slots?_toJson]
  simp [Source.text?, Source.optional?_string, Source.defaulting?, rereadable.table?_fields]

theorem Rereadable.parse?_toText (rereadable : entry.Rereadable) : parse? entry.toText = some entry := by
  rw [parse?, toText, Json.sourceOf_toText rereadable.isPlain_toJson]
  exact rereadable.ofSource?_toJson

/-- An entry of a text whose numbers are whole is read back from what it is written as: the same entry, of which
all is the same that is shown and searched. -/
theorem reread_entry (text : Source.parse? payload = some source) (whole : source.IsWhole)
    (parsed : parse? payload = some entry) :
    ∃ again, parse? entry.toText = some again ∧ again = entry ∧ again.displayMessage = entry.displayMessage ∧
      again.level = entry.level ∧ again.context = entry.context ∧ again.extraFields = entry.extraFields ∧
      ∀ query, again.isMatch query = entry.isMatch query := by
  rw [parse?, text] at parsed
  have rereadable := rereadable_of_ofSource? whole parsed
  exact ⟨entry, rereadable.parse?_toText, rfl, rfl, rfl, rfl, rfl, fun _ => rfl⟩

/-- An entry in array notation, without a message, whose fields repeat a name. -/
theorem reread_entry_listed :
    let payload := "[\"t\",\"Warn\",null,\"a\",\x7b\"n\":1,\"ctx\":\x7b\"dest_domain\":\"\\u0007\"\x7d,\"n\":-7\x7d]"
    let context : Json := .object [("dest_domain", .string "\x07")]
    let entry : LogEntry :=
      { timestamp := "t", levelText := "Warn", target := some "a", fields := [("ctx", context), ("n", .ofInt (-7))] }
    (∃ source, Source.parse? payload = some source ∧ source.IsWhole ∧ parse? payload = some entry) ∧
      ∃ again, parse? entry.toText = some again ∧ again = entry ∧
        again.context = some { domain := some "\x07" } := by
  intro payload context entry
  -- the payload is itself a written value, whose members stand in no order
  let written : Json := .array [.string "t", .string "Warn", .null, .string "a",
    .object [("n", .ofInt 1), ("ctx", context), ("n", .ofInt (-7))]]
  have plain : written.IsPlain 3 := by simp (disch := decide) [written, context, Json.isPlain_ofInt]
  have shown : payload = written.toText := by decide +kernel
  have text : Source.parse? payload = some (.ofJson written) := shown ▸ Json.sourceOf_toText plain
  have one : Source.IsWhole (.number (some (.integer 1))) := by
    have literal : Json.Literal.IsWhole ⟨false, [1], [], none⟩ := ⟨rfl, rfl, by decide, by decide⟩
    exact .number literal
  have minus : Source.IsWhole (.number (some (.integer (-7)))) := by
    have literal : Json.Literal.IsWhole ⟨true, [7], [], none⟩ := ⟨rfl, rfl, by decide, by decide⟩
    exact .number literal
  have whole : (Source.ofJson written).IsWhole := by
    simp [written, context, Json.ofInt, Source.ofJson, Source.ofItems, Source.ofMembers, one, minus]
  have parsed : parse? payload = some entry := by
    rw [parse?, text]
    rfl
  obtain ⟨again, read, same, -, -, sameContext, -⟩ := reread_entry text whole parsed
  have decoded : entry.context = some { domain := some "\x07" } := by decide
  exact ⟨⟨_, text, whole, parsed⟩, again, read, same, sameContext.trans decoded⟩

end ProxyWatch.LogEntry
