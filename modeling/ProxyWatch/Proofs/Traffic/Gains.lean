import ProxyWatch.Proofs.Json.Ordered
import ProxyWatch.Traffic.Rates

/-! What a tracker reports for two documents in a row.

A rate is what both counters gained since the document before. The law has one gap: the counters of
the whole document are kept under the empty name, where a connection without a name belongs as well. -/
namespace ProxyWatch
open SampleTable (records totalsKey)

namespace Rate

/-- Both counters gained as much as they went up by; without an earlier sample they gained nothing. -/
def IsGain (rate : Rate) (previous : Option Sample) (current : Sample) : Prop :=
  match previous with
  | none => rate.upload = 0 ∧ rate.download = 0
  | some previous =>
    (rate.upload : Int) = max 0 ((current.upload : Int) - previous.upload) ∧
      (rate.download : Int) = max 0 ((current.download : Int) - previous.download)

theorem isGain_since (previous : Option Sample) (current : Sample) :
    (since previous current).IsGain previous current := by
  cases previous with
  | none => exact ⟨rfl, rfl⟩
  | some previous =>
    simp only [since, between, IsGain]
    omega

end Rate

/-- The sample of a connection in a document. -/
def connectionSample? (document : Json) (id : String) : Option Sample :=
  ((records document).get? id).map Sample.ofRecord

/-- What is remembered of a document under a name. The counters of the whole document displace those of
a connection without a name. -/
def keptSample? (document : Json) (id : String) : Option Sample :=
  if id = totalsKey then (Sample.totals document).or (connectionSample? document id)
  else connectionSample? document id

/-- The sheet of a document by earlier samples of its connections and of the whole: there is a gain for
every connection and no other, and one in total if the document has counters of its own. -/
structure RateSheet.TellsGains (sheet : RateSheet) (previous : String → Option Sample)
    (previousTotals : Option Sample) (document : Json) : Prop where
  ids : sheet.connections.keys = (records document).keys
  connections : ∀ id record, (records document).get? id = some record →
    ∃ rate, sheet.get? id = some rate ∧ rate.IsGain (previous id) (Sample.ofRecord record)
  withoutTotals : sheet.total = none ↔
    document.member? "total_upload" = none ∧ document.member? "total_download" = none
  total : ∀ current, Sample.totals document = some current →
    ∃ rate, sheet.total = some rate ∧ rate.IsGain previousTotals current

/-- Of two documents in a row, neither a connection without a name nor the counters of the whole meet
a sample of the other kind. -/
structure NamedApart (first second : Json) : Prop where
  connection : connectionSample? second totalsKey ≠ none → Sample.totals first = none
  total : Sample.totals second ≠ none → Sample.totals first = none →
    connectionSample? first totalsKey = none

variable {first second document : Json}

theorem records_isOrdered (ordered : document.IsOrdered) : (records document).IsOrdered := by
  unfold records
  cases found : document.member? "connections" with
  | none => exact Dictionary.isOrdered_nil
  | some connections =>
    cases connections with
    | object members => exact (ordered.member? found).order
    | null | bool | number | string | array => exact Dictionary.isOrdered_nil

theorem totals_eq_none_iff (document : Json) :
    Sample.totals document = none ↔
      document.member? "total_upload" = none ∧ document.member? "total_download" = none := by
  simp [Sample.totals]

theorem connections_sheet (previous : SampleTable) (ordered : document.IsOrdered) :
    (previous.sheet document).connections = (records document).map fun (id, record) =>
      (id, Rate.since (Dictionary.get? previous id) (Sample.ofRecord record)) :=
  Dictionary.foldl_insert_of_isOrdered (records_isOrdered ordered) fun id record =>
    Rate.since (Dictionary.get? previous id) (Sample.ofRecord record)

theorem get?_ofDocument (ordered : document.IsOrdered) (id : String) :
    (SampleTable.ofDocument document).get? id = keptSample? document id := by
  have sampled := Dictionary.foldl_insert_of_isOrdered (records_isOrdered ordered)
    fun _ record => Sample.ofRecord record
  have found := Dictionary.get?_map (records document) (fun _ record => Sample.ofRecord record) id
  simp only [SampleTable.ofDocument, sampled, keptSample?]
  cases totals : Sample.totals document with
  | none => simpa [connectionSample?] using found
  | some counters =>
    rw [Dictionary.get?_insert]
    by_cases unnamed : id = totalsKey
    · simp [unnamed]
    · simpa [unnamed, Ne.symm unnamed, connectionSample?] using found

private theorem sheet_tellsGains (previous : SampleTable) (ordered : document.IsOrdered) :
    (previous.sheet document).TellsGains (Dictionary.get? previous)
      (Dictionary.get? previous totalsKey) document := by
  constructor
  · simp [connections_sheet previous ordered, Dictionary.keys, Function.comp_def]
  · intro id record present
    refine ⟨_, ?_, Rate.isGain_since (Dictionary.get? previous id) (Sample.ofRecord record)⟩
    have found := Dictionary.get?_map (records document)
      (fun id record => Rate.since (Dictionary.get? previous id) (Sample.ofRecord record)) id
    rw [RateSheet.get?, connections_sheet previous ordered, found, present]
    rfl
  · rw [← totals_eq_none_iff]
    simp [SampleTable.sheet]
  · intro current present
    refine ⟨_, ?_, Rate.isGain_since (Dictionary.get? previous totalsKey) current⟩
    simp [SampleTable.sheet, present]

theorem RateSheet.TellsGains.of_same {sheet : RateSheet} {previous other : String → Option Sample}
    {previousTotals otherTotals : Option Sample}
    (gains : sheet.TellsGains previous previousTotals document)
    (connections : ∀ id, connectionSample? document id ≠ none → previous id = other id)
    (totals : Sample.totals document ≠ none → previousTotals = otherTotals) :
    sheet.TellsGains other otherTotals document where
  ids := gains.ids
  connections id record present := by
    rw [← connections id (by simp [connectionSample?, present])]
    exact gains.connections id record present
  withoutTotals := gains.withoutTotals
  total current present := by
    rw [← totals (by simp [present])]
    exact gains.total current present

/-- Held against the samples of a document, a sheet tells the gains since that document. -/
theorem sheet_ofDocument_tellsGains (firstOrdered : first.IsOrdered) (secondOrdered : second.IsOrdered) :
    ((SampleTable.ofDocument first).sheet second).TellsGains (keptSample? first)
      (keptSample? first totalsKey) second :=
  (sheet_tellsGains (.ofDocument first) secondOrdered).of_same
    (fun id _ => get?_ofDocument firstOrdered id) fun _ => get?_ofDocument firstOrdered totalsKey

/-- Of two documents in a row, the second is held against what is remembered of the first, and nothing
before it. So every rate is the gain since the first, unless one without a name is held against the
counters of the whole document or the other way round. -/
theorem RateTracker.update_tellsGains (tracker : RateTracker) (firstOrdered : first.IsOrdered)
    (secondOrdered : second.IsOrdered) :
    let sheet := ((tracker.update first).2.update second).1
    sheet.TellsGains (keptSample? first) (keptSample? first totalsKey) second ∧
    (NamedApart first second →
      sheet.TellsGains (connectionSample? first) (Sample.totals first) second) := by
  intro sheet
  have gains : sheet.TellsGains (keptSample? first) (keptSample? first totalsKey) second :=
    sheet_ofDocument_tellsGains firstOrdered secondOrdered
  refine ⟨gains, fun apart => gains.of_same ?_ ?_⟩
  · intro id present
    by_cases unnamed : id = totalsKey
    · subst unnamed
      simp [keptSample?, apart.connection present]
    · exact if_neg unnamed
  · intro present
    cases totals : Sample.totals first with
    | none => simp [keptSample?, totals, apart.total present totals]
    | some counters => simp [keptSample?, totals]

/-- One connection goes back, one ends, one is new, and the total goes up. -/
theorem RateTracker.update_tellsGains_changes :
    let counters (download upload : Nat) : Json :=
      .object [("download", .ofNat download), ("upload", .ofNat upload)]
    let first : Json := .object
      [("connections", .object [("a", counters 9 5), ("b", counters 1 1)]), ("total_upload", .ofNat 40)]
    let second : Json := .object
      [("connections", .object [("a", counters 4 7), ("c", counters 3 3)]), ("total_upload", .ofNat 47)]
    (first.IsOrdered ∧ second.IsOrdered ∧ NamedApart first second) ∧
      (((({} : RateTracker).update first).2.update second).1).TellsGains (connectionSample? first)
        (Sample.totals first) second := by
  intro counters first second
  have firstOrdered : first.IsOrdered :=
    Json.isOrdered_of_value? 3 (Json.Source.ofJson first) first rfl
  have secondOrdered : second.IsOrdered :=
    Json.isOrdered_of_value? 3 (Json.Source.ofJson second) second rfl
  have apart : NamedApart first second := ⟨fun unnamed => absurd rfl unnamed, fun _ _ => rfl⟩
  exact ⟨⟨firstOrdered, secondOrdered, apart⟩,
    (RateTracker.update_tellsGains {} firstOrdered secondOrdered).2 apart⟩

/-- A new connection without a name is held against the counters of the whole document. -/
theorem unnamed_connection_of_totals :
    let first : Json := .object
      [("connections", .object []), ("total_download", .ofNat 40), ("total_upload", .ofNat 100)]
    let second : Json := .object
      [("connections", .object [("", .object [("download", .ofNat 50), ("upload", .ofNat 130)])])]
    first.IsOrdered ∧ second.IsOrdered ∧
      ¬ (((({} : RateTracker).update first).2.update second).1).TellsGains (connectionSample? first)
        (Sample.totals first) second := by
  intro first second
  refine ⟨Json.isOrdered_of_value? 3 (Json.Source.ofJson first) first rfl,
    Json.isOrdered_of_value? 3 (Json.Source.ofJson second) second rfl, ?_⟩
  intro gains
  obtain ⟨rate, reported, gain⟩ := gains.connections "" _ rfl
  have rate_eq : some (⟨30, 10⟩ : Rate) = some rate := reported
  cases rate_eq
  have nothing : (30 : Nat) = 0 := gain.1
  cases nothing

end ProxyWatch
