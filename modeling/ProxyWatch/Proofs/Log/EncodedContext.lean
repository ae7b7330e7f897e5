import ProxyWatch.Log.Entry
import ProxyWatch.Proofs.Json.Records

/-! The context of an entry is the same from an object and from the text of that object.

Whatever else the object holds, the text of all of it is read; that its numbers may come back as others makes no
difference, as all that a context takes are texts. -/
namespace ProxyWatch
open Json (Source)

namespace LogContext
variable {members : Json.Members} {context : LogContext}

/-- A member that may be missing or null, and is a text otherwise. -/
inductive GivesText : Option Json → Option String → Prop where
  | missing : GivesText none none
  | null : GivesText (some .null) none
  | text (text : String) : GivesText (some (.string text)) (some text)

/-- A member that may be missing, and is an array of texts otherwise. -/
inductive GivesTexts : Option Json → List String → Prop where
  | missing : GivesTexts none []
  | texts (texts : List String) : GivesTexts (some (.array (texts.map .string))) texts

/-- An object that holds a context, among any other members. -/
structure Describes (members : Json.Members) (context : LogContext) : Prop where
  once : ∀ name ∈ LogContext.members, (Dictionary.keys members).count name ≤ 1
  source : GivesText (members.get? "src_socket_addr") context.source
  destination : GivesText (members.get? "dest_socket_addr") context.destination
  domain : GivesText (members.get? "dest_domain") context.domain
  nets : GivesTexts (members.get? "net_list") context.nets

theorem givesText_iff {member : Option Json} {text : Option String} :
    Source.optional? Source.text? (member.map .ofJson) = some text ↔ GivesText member text := by
  constructor
  · intro read
    cases member with
    | none =>
      cases read
      exact .missing
    | some value =>
      cases value with
      | null =>
        cases read
        exact .null
      | string given =>
        cases read
        exact .text given
      | bool | number | array | object => cases read
  · intro gives
    cases gives with
    | missing | null | text => rfl

theorem givesTexts_iff {member : Option Json} {texts : List String} :
    Source.defaulting? [] Source.texts? (member.map .ofJson) = some texts ↔ GivesTexts member texts := by
  constructor
  · intro read
    cases member with
    | none =>
      cases read
      exact .missing
    | some value =>
      cases value with
      | null | bool | number | string | object => cases read
      | array items =>
        rw [Option.map_some, Source.defaulting?, Source.texts?_ofJson_eq_some_iff] at read
        cases read
        exact .texts texts
  · intro gives
    cases gives with
    | missing => rfl
    | texts => exact Source.texts?_ofJson_eq_some_iff.mpr rfl

theorem ofSource?_eq_some_iff :
    ofSource? (.ofJson (.object members)) = some context ↔ Describes members context := by
  have once : (LogContext.members.all fun name => (Dictionary.keys members).count name ≤ 1) = true ↔
      ∀ name ∈ LogContext.members, (Dictionary.keys members).count name ≤ 1 := by
    simp only [List.all_eq_true, decide_eq_true_eq]
  rw [ofSource?, Source.slots?_object]
  constructor
  · intro read
    split at read
    · rename_i single
      simp only [LogContext.members, List.map_cons, List.map_nil, Option.bind_eq_bind, Option.bind_some,
        Option.pure_def, Option.bind_eq_some_iff, Option.some.injEq] at read
      obtain ⟨source, sourceRead, destination, destinationRead, domain, domainRead, nets, netsRead, rfl⟩ := read
      exact ⟨once.mp single, givesText_iff.mp sourceRead, givesText_iff.mp destinationRead,
        givesText_iff.mp domainRead, givesTexts_iff.mp netsRead⟩
    · cases read
  · rintro ⟨single, source, destination, domain, nets⟩
    rw [if_pos (once.mpr single)]
    simp only [LogContext.members, List.map_cons, List.map_nil, Option.bind_eq_bind, Option.bind_some,
      Option.pure_def, givesText_iff.mpr source, givesText_iff.mpr destination, givesText_iff.mpr domain,
      givesTexts_iff.mpr nets]

private theorem ofSource?_written (members : Json.Members) :
    ofSource? (.ofWritten (.object members)) = ofSource? (.ofJson (.object members)) := by
  rw [ofSource?, ofSource?, Source.slots?_written, Source.slots?_object]
  split
  · simp only [LogContext.members, List.map_cons, List.map_nil, Option.bind_eq_bind, Option.bind_some,
      Source.optional?_ofWritten, Source.defaulting?_ofWritten]
  · rfl

end LogContext

namespace LogEntry
variable {entry : LogEntry} {members : Json.Members}

private theorem context_of_object (present : entry.fields.get? "ctx" = some (.object members)) :
    entry.context = LogContext.ofSource? (.ofJson (.object members)) := by
  simp [context, present]

/-- The entry with a text in the place of its context. -/
def withContext (entry : LogEntry) (text : String) : LogEntry :=
  { entry with fields := entry.fields.insert "ctx" (.string text) }

private theorem context_withContext (entry : LogEntry) (text : String) :
    (entry.withContext text).context = (Source.parse? text).bind LogContext.ofSource? := by
  simp [context, withContext, Dictionary.get?_insert]

/-- A context is the same from an object and from the text of it, and there is one if and only if the object
describes it. -/
theorem context_of_encoded (present : entry.fields.get? "ctx" = some (.object members)) :
    (entry.withContext (Json.object members).toText).context = entry.context ∧
      ∀ context, entry.context = some context ↔ LogContext.Describes members context := by
  rw [context_withContext, context_of_object present, Json.parse?_text, Option.bind_some]
  constructor
  · exact LogContext.ofSource?_written members
  · intro context
    exact LogContext.ofSource?_eq_some_iff

/-- An object with a null for an address and with a fraction in a member that is none of a context. -/
theorem context_of_encoded_mixed :
    let members : Json.Members := [("dest_domain", .string "a\"\n"),
      ("net_list", .array [.string "local", .string "proxy"]),
      ("rtt", .object [("ms", .number (.double ⟨false, 7036874417766400, -49⟩))]), ("src_socket_addr", .null)]
    let entry : LogEntry :=
      { timestamp := "t", levelText := "info", fields := [("ctx", .object members), ("n", .null)] }
    entry.fields.get? "ctx" = some (.object members) ∧
      (entry.withContext (Json.object members).toText).context =
        some { domain := some "a\"\n", nets := ["local", "proxy"] } := by
  intro members entry
  have present : entry.fields.get? "ctx" = some (.object members) := rfl
  have decoded : entry.context = some { domain := some "a\"\n", nets := ["local", "proxy"] } := by decide
  obtain ⟨same, -⟩ := context_of_encoded present
  exact ⟨present, same.trans decoded⟩

end LogEntry
end ProxyWatch
