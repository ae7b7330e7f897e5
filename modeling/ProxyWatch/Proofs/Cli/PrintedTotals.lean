import ProxyWatch.Cli.Report
import ProxyWatch.Proofs.Document.Resending
import ProxyWatch.Proofs.Stream.Samples

/-! The bytes that are printed of a connection, beside its rates.

Both are read from one record, by rules of their own: a counter that is a double is sampled without its fraction,
but it is printed as nothing. All other counters are printed as they are sampled, so that the rates tell how the
printed bytes have changed. -/
namespace ProxyWatch.Cli
open ProxyWatch.Stream (Callback ConnectionsView documentOf_append_snapshot isAccepted payloads payloads_append
  snapshot?_full)
open ProxyWatch.Stream.ConnectionFeed (after rates_tellsGains reflects_after)
open SampleTable (records totalsKey)
variable {record before now document first : Json} {way id payload : String}

/-- A counter that is a double of one or more. -/
def IsLost (record : Json) (way : String) : Prop :=
  ∃ x : Number.Double, record.member? way = some (.number (.double x)) ∧ x.negative = false ∧ 0 < x.truncated

theorem moved_of_isLost (lost : IsLost record way) :
    moved record way = 0 ∧ 0 < Sample.counterOf (record.member? way) := by
  obtain ⟨x, found, positive, whole⟩ := lost
  have counted : 0 < min x.truncated Json.counterLimit := Nat.lt_min.mpr ⟨whole, by decide⟩
  constructor
  · simp [moved, found, Json.natural?]
  · simpa [found, Sample.counterOf, Sample.counter, positive] using counted

/-- Whole numbers are read alike, and both readings make nothing of a double that is negative or below one. -/
theorem getD_natural? {value : Json}
    (kept : ∀ x, value = .number (.double x) → x.negative = true ∨ x.truncated = 0) :
    value.natural?.getD 0 = Sample.counter value := by
  cases value with
  | null | bool | string | array | object => rfl
  | number number =>
    cases number with
    | integer n =>
      by_cases natural : 0 ≤ n
      · simp [Json.natural?, Sample.counter, natural]
      · have none : n.toNat = 0 := by omega
        simp [Json.natural?, Sample.counter, natural, none]
    | double x =>
      rcases kept x rfl with negative | small
      · simp [Json.natural?, Sample.counter, negative]
      · simp [Json.natural?, Sample.counter, small]

theorem moved_of_not_isLost (kept : ¬ IsLost record way) :
    moved record way = Sample.counterOf (record.member? way) := by
  rw [moved, Sample.counterOf]
  cases found : record.member? way with
  | none => rfl
  | some member =>
    apply getD_natural?
    rintro x rfl
    by_cases negative : x.negative = true
    · exact .inl negative
    · refine .inr (Nat.eq_zero_of_not_pos ?_)
      intro whole
      exact kept ⟨x, found, Bool.not_eq_true _ |>.mp negative, whole⟩

theorem moved_eq_iff (record : Json) (way : String) :
    moved record way = Sample.counterOf (record.member? way) ↔ ¬ IsLost record way := by
  constructor
  · intro same lost
    obtain ⟨nothing, something⟩ := moved_of_isLost lost
    omega
  · exact moved_of_not_isLost

theorem gain_of_moved {gain : Nat} (beforeKept : ¬ IsLost before way) (nowKept : ¬ IsLost now way)
    (gained : (gain : Int) = max 0 ((Sample.counterOf (now.member? way) : Int) -
      Sample.counterOf (before.member? way))) :
    (gain : Int) = max 0 ((moved now way : Int) - moved before way) := by
  rw [moved_of_not_isLost beforeKept, moved_of_not_isLost nowKept]
  exact gained

theorem mem_viewLines {view : ConnectionsView} (shown : view.document = some document)
    (present : (records document).get? id = some record) :
    connectionLine id record ((view.rates.get? id).getD .zero) ∈ viewLines view := by
  have listed : (id, record) ∈ view.connections.getD [] := by
    have same : view.connections.getD [] = records document := by
      rw [ConnectionsView.connections, shown]
      rfl
    rw [same]
    exact Dictionary.mem_of_get? present
  rw [viewLines]
  apply List.mem_cons_of_mem
  apply List.mem_map.mpr
  exact ⟨(id, record), listed, rfl⟩

theorem document_of_full (callbacks : List Callback) (parsed : Message.parse? payload = some (.full document)) :
    (after (callbacks ++ [.message payload])).view.document = some document := by
  rw [(reflects_after _).document, payloads_append]
  exact documentOf_append_snapshot _ (snapshot?_full parsed)

/-- What is printed of a connection after an update. Its bytes are the sampled counters, apart from doubles of one
or more, which are printed as nothing. Its rate is what the sampled counters went up by since the document that was
shown before, and so what the printed bytes went up by, if neither they nor those before are such doubles. -/
theorem totals_of_updates (callbacks : List Callback) (shown : (after callbacks).view.document = some first)
    (accepted : isAccepted (payloads callbacks) payload = true) :
    (∀ record way, (moved record way = Sample.counterOf (record.member? way) ↔ ¬ IsLost record way) ∧
      (IsLost record way → moved record way = 0)) ∧
    ∃ second, (after (callbacks ++ [.message payload])).view.document = some second ∧
      ∀ id before now, id ≠ totalsKey → (records first).get? id = some before →
        (records second).get? id = some now →
        ∃ earlier rate, connectionLine id before earlier ∈ viewLines (after callbacks).view ∧
          connectionLine id now rate ∈ viewLines (after (callbacks ++ [.message payload])).view ∧
          rate.IsGain (some (Sample.ofRecord before)) (Sample.ofRecord now) ∧
          (¬ IsLost before "upload" → ¬ IsLost now "upload" →
            (rate.upload : Int) = max 0 ((moved now "upload" : Int) - moved before "upload")) ∧
          (¬ IsLost before "download" → ¬ IsLost now "download" →
            (rate.download : Int) = max 0 ((moved now "download" : Int) - moved before "download")) := by
  refine ⟨fun record way => ⟨moved_eq_iff record way, fun lost => (moved_of_isLost lost).1⟩, ?_⟩
  obtain ⟨second, published, gains⟩ := rates_tellsGains callbacks shown accepted
  refine ⟨second, published, ?_⟩
  intro id before now named earlierPresent present
  obtain ⟨rate, reported, gain⟩ := gains.connections id now present
  have sampled : keptSample? first id = some (Sample.ofRecord before) := by
    rw [keptSample?, if_neg named, connectionSample?, earlierPresent]
    rfl
  rw [sampled] at gain
  have line := mem_viewLines published present
  rw [reported] at line
  refine ⟨_, rate, mem_viewLines shown earlierPresent, line, gain, ?_, ?_⟩
  · intro beforeKept nowKept
    exact gain_of_moved beforeKept nowKept gain.1
  · intro beforeKept nowKept
    exact gain_of_moved beforeKept nowKept gain.2

/-- A counter that goes up from a negative zero, and one that goes back. -/
theorem totals_of_updates_back :
    let before : Json := .object [("download", .ofNat 9), ("upload", .number (.double (.zero true)))]
    let now : Json := .object [("download", .ofNat 7), ("upload", .ofNat 2048)]
    let document (record : Json) : Json := .object [("connections", .object [("c", record)])]
    let callbacks : List Callback := [.opened, .message (Message.full (document before)).toText]
    let payload := (Message.full (document now)).toText
    let view := (after (callbacks ++ [.message payload])).view
    ((after callbacks).view.document = some (document before) ∧
      isAccepted (payloads callbacks) payload = true ∧
      (¬ IsLost before "upload" ∧ ¬ IsLost now "upload") ∧
      ¬ IsLost before "download" ∧ ¬ IsLost now "download") ∧
      connectionLine "c" now ⟨2048, 0⟩ ∈ viewLines view := by
  intro before now document callbacks payload view
  have minus (limit : Nat) : (Json.number (.double (.zero true))).IsPlain limit := .number .minusZero
  have firstSent : (Message.full (document before)).Sendable := by
    have ordered : (document before).IsOrdered :=
      Json.isOrdered_of_value? 4 (Json.Source.ofJson (document before)) (document before) rfl
    refine ⟨ordered, ?_⟩
    change (document before).IsPlain 126
    simp (disch := decide) [document, before, Json.isPlain_ofNat, minus]
  have secondSent : (Message.full (document now)).Sendable := by
    have ordered : (document now).IsOrdered :=
      Json.isOrdered_of_value? 4 (Json.Source.ofJson (document now)) (document now) rfl
    refine ⟨ordered, ?_⟩
    change (document now).IsPlain 126
    simp (disch := decide) [document, now, Json.isPlain_ofNat]
  have begun : callbacks = [.opened] ++ [.message (Message.full (document before)).toText] := rfl
  have shown : (after callbacks).view.document = some (document before) := by
    rw [begun]
    exact document_of_full [.opened] firstSent.parse?_toText
  have parsed : Message.parse? payload = some (.full (document now)) := secondSent.parse?_toText
  have accepted : isAccepted (payloads callbacks) payload = true := by
    simp [isAccepted, parsed]
  have uploads : ¬ IsLost before "upload" ∧ ¬ IsLost now "upload" := by
    constructor
    · rintro ⟨x, found, positive, -⟩
      cases found
      cases positive
    · rintro ⟨x, found, -⟩
      cases found
  have downloads : ¬ IsLost before "download" ∧ ¬ IsLost now "download" := by
    constructor
    · rintro ⟨x, found, -⟩
      cases found
    · rintro ⟨x, found, -⟩
      cases found
  refine ⟨⟨shown, accepted, uploads, downloads⟩, ?_⟩
  obtain ⟨-, second, published, told⟩ := totals_of_updates callbacks shown accepted
  have same : second = document now := by
    rw [document_of_full callbacks parsed] at published
    exact Option.some.inj published.symm
  subst same
  obtain ⟨-, rate, -, line, -, up, down⟩ := told "c" before now (by decide) rfl rfl
  have gained := up uploads.1 uploads.2
  have back := down downloads.1 downloads.2
  have counters : (moved before "upload" = 0 ∧ moved now "upload" = 2048) ∧
      moved before "download" = 9 ∧ moved now "download" = 7 := by decide
  rw [counters.1.1, counters.1.2] at gained
  rw [counters.2.1, counters.2.2] at back
  have upload : rate.upload = 2048 := by omega
  have download : rate.download = 0 := by omega
  have reported : rate = ⟨2048, 0⟩ := by
    rw [← upload, ← download]
  subst reported
  exact line

/-- A counter with a fraction: it is sampled as twelve bytes, and then as twenty, and it is printed as none, beside
a rate of eight. -/
theorem fraction_printed_as_nothing :
    let before : Json := .object [("upload", .number (.double ⟨false, 7036874417766400, -49⟩))]
    let full := "\x7b\"full\":\x7b\"connections\":\x7b\"c\":\x7b\"upload\":12.5\x7d\x7d\x7d\x7d"
    let patch :=
      "\x7b\"patch\":[\x7b\"op\":\"replace\",\"path\":\"/connections/c/upload\",\"value\":20.5\x7d]\x7d"
    ((Sample.ofRecord before).upload = 12 ∧ moved before "upload" = 0) ∧
      viewLines (after [.opened, .message full]).view =
        ["[connected] 1 connections  up 0 B/s  down 0 B/s", "  c  -  up 0 B/s (0 B)  down 0 B/s (0 B)"] ∧
      viewLines (after [.opened, .message full, .message patch]).view =
        ["[connected] 1 connections  up 8 B/s  down 0 B/s", "  c  -  up 8 B/s (0 B)  down 0 B/s (0 B)"] := by
  decide +kernel

end ProxyWatch.Cli
