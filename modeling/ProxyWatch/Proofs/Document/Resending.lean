import ProxyWatch.Proofs.Document.Ordered
import ProxyWatch.Proofs.Json.Roundtrip

/-! A message that is sent on is received as it was. -/
namespace ProxyWatch
open Json (Source)

namespace Pointer

theorem unescape_escape (token : List Char) : unescape (escape token) = some token := by
  induction token with
  | nil => rfl
  | cons c rest ih =>
    rw [escape]
    split
    · rename_i tilde
      rw [unescape, ih, Option.map_some, tilde]
    split
    · rename_i slash
      rw [unescape, ih, Option.map_some, slash]
    · rename_i plain _
      rw [unescape, if_neg plain, ih, Option.map_some]
      all_goals
        rintro other rfl
        exact absurd rfl plain

theorem not_slash_of_mem_escape {c : Char} {token : List Char} (member : c ∈ escape token) :
    c ≠ '/' := by
  induction token with
  | nil => cases member
  | cons first rest ih =>
    have ofEscaped {digit : Char} (notSlash : digit ≠ '/')
        (listed : c ∈ '~' :: digit :: escape rest) : c ≠ '/' := by
      simp only [List.mem_cons] at listed
      rcases listed with rfl | rfl | later
      · decide
      · exact notSlash
      · exact ih later
    rw [escape] at member
    split at member
    · exact ofEscaped (by decide) member
    split at member
    · exact ofEscaped (by decide) member
    · rename_i slash
      rcases List.mem_cons.mp member with rfl | later
      · exact slash
      · exact ih later

theorem split_append {part : List Char} (whole : ∀ c ∈ part, c ≠ '/') {rest first : List Char}
    {others : List (List Char)} (parts : split rest = first :: others) :
    split (part ++ rest) = (part ++ first) :: others := by
  induction part with
  | nil => exact parts
  | cons c part ih =>
    have slash : c ≠ '/' := whole c List.mem_cons_self
    have shorter := ih fun other member => whole other (List.mem_cons_of_mem c member)
    rw [List.cons_append, split, shorter, List.cons_append]
    exact slash

private theorem split_tokens (part : List Char) (tokens : List String) (whole : ∀ c ∈ part, c ≠ '/') :
    split (part ++ tokens.flatMap fun token => '/' :: escape token.toList) =
      part :: tokens.map fun token => escape token.toList := by
  induction tokens generalizing part with
  | nil =>
    have ends : split [] = [] :: [] := rfl
    simpa using split_append whole ends
  | cons token tokens ih =>
    have parts := ih (escape token.toList) fun _ member => not_slash_of_mem_escape member
    have next : split ('/' :: (escape token.toList ++
        tokens.flatMap fun token => '/' :: escape token.toList)) = _ := congrArg ([] :: ·) parts
    simpa using split_append whole next

private theorem mapM_unescape (tokens : List String) :
    (tokens.map fun token => escape token.toList).mapM unescape = some (tokens.map String.toList) := by
  induction tokens with
  | nil => rfl
  | cons token tokens ih => simp [unescape_escape, ih]

theorem parse?_toText (path : Pointer) : parse? path.toText = some path := by
  obtain ⟨tokens⟩ := path
  cases tokens with
  | nil => rfl
  | cons token tokens =>
    have parts := split_tokens (escape token.toList) tokens fun _ member => not_slash_of_mem_escape member
    have read := mapM_unescape (token :: tokens)
    rw [List.map_cons] at read
    simp [parse?, toText, String.toList_ofList, parts, read]

end Pointer

namespace Operation
variable {operation : Operation} {source : Source} {limit : Nat} {value : Json}

private theorem exists_child_of_name? {name : String} (found : name? source = some name) :
    ∃ child, child ∈ source.children := by
  unfold name? at found
  split at found
  · obtain ⟨pair, first, -⟩ := Option.bind_eq_some_iff.mp found
    exact ⟨pair.2, List.mem_map_of_mem (List.mem_of_find?_eq_some first)⟩
  · exact ⟨_, List.mem_cons_self⟩
  · cases found

/-- The value of an operation has room for the object that the operation is written as. -/
def HasRoom (limit : Nat) (operation : Operation) : Prop :=
  ∃ below, limit = below + 1 ∧
    ∀ value, operation.value? = some value → value.IsOrdered ∧ value.IsPlain below

theorem hasRoom_of_ofSource? (whole : source.IsWhole) (read : ofSource? limit source = some operation) :
    operation.HasRoom limit := by
  obtain ⟨all, allRead, named⟩ := Option.bind_eq_some_iff.mp read
  obtain ⟨name, named, -⟩ := Option.bind_eq_some_iff.mp named
  obtain ⟨part, listed⟩ := exists_child_of_name? named
  obtain ⟨below, -, rfl, -⟩ := Json.value?_of_child allRead listed
  refine ⟨below, rfl, fun value brought => ?_⟩
  obtain ⟨child, member, childRead⟩ := exists_child_of_ofSource? read brought
  refine ⟨Json.isOrdered_of_value? _ child value childRead, ?_⟩
  -- the value was read with the limit of the whole tree, but it stands one level below
  obtain ⟨level, found, same, foundRead⟩ := Json.value?_of_child allRead member
  cases same
  have same := Json.value?_mono (Nat.le_succ below) child found foundRead
  rw [childRead] at same
  cases same
  exact Json.isPlain_of_value? below child value (whole.of_child member) foundRead

private theorem exists_value?_toJson (room : operation.HasRoom limit) :
    ∃ value, (Source.ofJson operation.toJson).value? limit = some value := by
  obtain ⟨below, rfl, plain⟩ := room
  cases operation with
  | add path value | replace path value | test path value =>
    obtain ⟨ordered, valuePlain⟩ := plain value rfl
    have read := Json.value?_ofJson value ordered valuePlain
    simp [toJson, Source.ofJson, Source.ofMembers, Source.value?, Source.members?, read]
  | remove | move | copy =>
    simp [toJson, Source.ofJson, Source.ofMembers, Source.value?, Source.members?]

theorem ofSource?_toJson (room : operation.HasRoom limit) :
    ofSource? limit (.ofJson operation.toJson) = some operation := by
  obtain ⟨whole, wholeRead⟩ := exists_value?_toJson room
  obtain ⟨below, rfl, plain⟩ := room
  rw [ofSource?, wholeRead]
  cases operation with
  | add path value | replace path value | test path value =>
    obtain ⟨ordered, valuePlain⟩ := plain value rfl
    have read := Json.value?_mono (Nat.le_succ below) _ _ (Json.value?_ofJson value ordered valuePlain)
    simp [toJson, Source.ofJson, Source.ofMembers, name?, Source.text?, Source.slots?, Source.names?,
      pointer?, Pointer.parse?_toText, read]
  | remove | move | copy =>
    simp [toJson, Source.ofJson, Source.ofMembers, name?, Source.text?, Source.slots?, Source.names?,
      pointer?, Pointer.parse?_toText]

theorem HasRoom.isPlain (room : operation.HasRoom limit) : operation.toJson.IsPlain limit := by
  obtain ⟨below, rfl, plain⟩ := room
  cases operation with
  | add path value | replace path value | test path value =>
    have valuePlain := (plain value rfl).2
    simp [toJson, valuePlain]
  | remove | move | copy => simp [toJson]

end Operation

namespace Patch
variable {patch : Patch} {limit : Nat}

theorem hasRoom_of_ofSource? {source : Source} (whole : source.IsWhole)
    (read : ofSource? limit source = some patch) :
    ∀ operation ∈ patch, operation.HasRoom (limit - 1) := by
  cases whole with
  | null | bool | number | string | object => cases read
  | @array sources all =>
    simp only [ofSource?] at read
    induction sources generalizing patch with
    | nil =>
      cases read
      intro operation member
      cases member
    | cons source rest ih =>
      rw [List.mapM_cons] at read
      obtain ⟨head, headRead, read⟩ := Option.bind_eq_some_iff.mp read
      obtain ⟨tail, tailRead, same⟩ := Option.bind_eq_some_iff.mp read
      cases same
      intro operation member
      rcases List.mem_cons.mp member with rfl | later
      · exact Operation.hasRoom_of_ofSource? (all source List.mem_cons_self) headRead
      · exact ih (fun other listed => all other (List.mem_cons_of_mem _ listed)) tailRead operation later

theorem ofSource?_toJson (room : ∀ operation ∈ patch, operation.HasRoom (limit - 1)) :
    ofSource? limit (.ofJson (toJson patch)) = some patch := by
  rw [toJson, Source.ofJson, ofSource?]
  induction patch with
  | nil => rfl
  | cons operation rest ih =>
    have others := ih fun other member => room other (List.mem_cons_of_mem _ member)
    have first := Operation.ofSource?_toJson (room operation List.mem_cons_self)
    rw [List.map_cons, Source.ofItems, List.mapM_cons, first, others]
    rfl

theorem isPlain_toJson (room : ∀ operation ∈ patch, operation.HasRoom limit) :
    (toJson patch).IsPlain (limit + 1) := by
  refine .array fun item member => ?_
  obtain ⟨operation, listed, rfl⟩ := List.mem_map.mp member
  exact (room operation listed).isPlain

end Patch

namespace Message
variable {message : Message}

/-- What a message can be sent on with: a document that is read back, or operations that are. -/
def Sendable : Message → Prop
  | full document => document.IsOrdered ∧ document.IsPlain (Source.nestingLimit - 1)
  | patch operations => ∀ operation ∈ operations, operation.HasRoom (Source.nestingLimit - 2)

private theorem sendable_of_ofSource? {source : Source} (whole : source.IsWhole)
    (read : ofSource? source = some message) : message.Sendable := by
  unfold ofSource? at read
  split at read
  · rename_i tree
    obtain ⟨document, documentRead, rfl⟩ := Option.map_eq_some_iff.mp read
    exact ⟨Json.isOrdered_of_value? _ tree document documentRead,
      Json.isPlain_of_value? _ tree document (whole.of_child List.mem_cons_self) documentRead⟩
  · rename_i tree
    obtain ⟨operations, operationsRead, rfl⟩ := Option.map_eq_some_iff.mp read
    exact Patch.hasRoom_of_ofSource? (whole.of_child List.mem_cons_self) operationsRead
  · cases read

theorem Sendable.isPlain (sendable : message.Sendable) :
    message.toJson.IsPlain Source.nestingLimit := by
  cases message with
  | full document =>
    refine .object fun pair member => ?_
    rw [List.mem_singleton.mp member]
    exact sendable.2
  | patch operations =>
    refine .object fun pair member => ?_
    rw [List.mem_singleton.mp member]
    exact Patch.isPlain_toJson sendable

theorem Sendable.ofSource?_toJson (sendable : message.Sendable) :
    ofSource? (.ofJson message.toJson) = some message := by
  cases message with
  | full document =>
    have read := Json.value?_ofJson document sendable.1 sendable.2
    exact congrArg (Option.map full) read
  | patch operations =>
    have read : Patch.ofSource? (Source.nestingLimit - 1) (.ofJson (Patch.toJson operations)) =
        some operations := Patch.ofSource?_toJson sendable
    exact congrArg (Option.map patch) read

theorem Sendable.parse?_toText (sendable : message.Sendable) : parse? message.toText = some message := by
  rw [parse?, toText, Json.sourceOf_toText sendable.isPlain]
  exact sendable.ofSource?_toJson

/-- A message of a text whose numbers are whole is received as it was when it is sent on: the same
document, or the same operations in the same order. -/
theorem parse?_resent {payload : String} {source : Source}
    (text : Source.parse? payload = some source) (whole : source.IsWhole)
    (parsed : parse? payload = some message) : parse? message.toText = some message := by
  rw [parse?, text] at parsed
  have sendable := sendable_of_ofSource? whole parsed
  rw [parse?, toText, Json.sourceOf_toText sendable.isPlain]
  exact sendable.ofSource?_toJson

theorem parse?_resent_patch :
    let payload := "\x7b\"patch\":[\x7b\"value\":[-7,\"\\u0007\\n\"],\"by\":null,\"path\":\"/a~1b\"," ++
      "\"op\":\"add\"\x7d,[\"move\",\"/c\",\"/d\"]]\x7d"
    let value := Json.array [.number (.integer (-7)), .string "\x07\n"]
    let message := patch [.add ⟨["a/b"]⟩ value, .move ⟨["c"]⟩ ⟨["d"]⟩]
    parse? payload = some message ∧ parse? message.toText = some message := by
  intro payload value message
  -- the payload is itself a written value, whose members stand in no order
  let written : Json := .object [("patch", .array [
    .object [("value", value), ("by", .null), ("path", .string "/a~1b"), ("op", .string "add")],
    .array [.string "move", .string "/c", .string "/d"]])]
  have number : Json.IsPlain 0 (.number (.integer (-7))) :=
    .number (.integer (by decide) (by decide))
  have plain : written.IsPlain 4 := by simp [written, value, number]
  have shown : payload = written.toText := by decide +kernel
  have text : Source.parse? payload = some (.ofJson written) := shown ▸ Json.sourceOf_toText plain
  have literal : Json.Literal.IsWhole ⟨true, [7], [], none⟩ := ⟨rfl, rfl, by decide, by decide⟩
  have numeral : Source.IsWhole (.number (some (.integer (-7)))) := .number literal
  have whole : (Source.ofJson written).IsWhole := by
    simp [written, value, Source.ofJson, Source.ofItems, Source.ofMembers, numeral]
  have parsed : parse? payload = some message := by
    rw [parse?, text]
    rfl
  exact ⟨parsed, parse?_resent text whole parsed⟩

end Message
end ProxyWatch
