import Mathlib
import ProxyWatch.Proofs.Traffic.Gains

/-! What the rates of one connection add up to over many documents.

Each document is held against the one before it and no other, so the rates telescope: they add up to the
change of a counter, and to more only where the counter went back in between. -/
namespace ProxyWatch
open SampleTable (records totalsKey)

/-- What a counter went up by from each of its readings to the next; where it went back, nothing. -/
def increases (readings : List Nat) : List Int :=
  readings.zipWith (fun (before now : Nat) => max 0 ((now : Int) - before)) readings.tail

/-- What the gains of a counter add up to, by its readings. -/
structure Telescopes (readings gains : List Nat) : Prop where
  change_le : ∀ first last, readings.head? = some first → readings.getLast? = some last →
    (last : Int) - first ≤ gains.sum
  change_eq_iff : ∀ first last, readings.head? = some first → readings.getLast? = some last →
    ((gains.sum : Int) = last - first ↔ readings.IsChain (· ≤ ·))
  le_increases : (gains.sum : Int) ≤ (increases readings).sum

/-- The differences of a counter's readings, cut off at zero. -/
def climbs (readings : List Nat) : List Nat :=
  readings.zipWith (fun before now => now - before) readings.tail

theorem climbs_cons_cons (before now : Nat) (rest : List Nat) :
    climbs (before :: now :: rest) = (now - before) :: climbs (now :: rest) := rfl

private theorem sum_climbs (readings : List Nat) : ((climbs readings).sum : Int) = (increases readings).sum := by
  induction readings with
  | nil => rfl
  | cons before rest ih =>
    cases rest with
    | nil => rfl
    | cons now rest =>
      have step : ((now - before : Nat) : Int) = max 0 ((now : Int) - before) := by omega
      have later : (increases (before :: now :: rest)).sum =
          max 0 ((now : Int) - before) + (increases (now :: rest)).sum := List.sum_cons
      rw [climbs_cons_cons, List.sum_cons, Int.natCast_add, ih, later, step]

/-- Nothing is lost, and something is won where the counter goes back. -/
theorem change_of_climbs (first last : Nat) (rest : List Nat)
    (ends : (first :: rest).getLast? = some last) :
    (last : Int) - first ≤ (climbs (first :: rest)).sum ∧
      (((climbs (first :: rest)).sum : Int) = last - first ↔ (first :: rest).IsChain (· ≤ ·)) := by
  induction rest generalizing first with
  | nil =>
    cases ends
    constructor
    · simp [climbs]
    · simp [climbs]
  | cons next rest ih =>
    rw [List.getLast?_cons_cons] at ends
    obtain ⟨least, equal⟩ := ih next ends
    rw [climbs_cons_cons, List.sum_cons, Int.natCast_add, List.isChain_cons_cons, ← equal]
    constructor
    · omega
    · constructor
      · intro whole
        constructor <;> omega
      · rintro ⟨up, later⟩
        omega

theorem telescopes_climbs (readings : List Nat) : Telescopes readings (climbs readings) := by
  cases readings with
  | nil =>
    constructor
    · exact nofun
    · exact nofun
    · exact Int.le_refl 0
  | cons first rest =>
    constructor
    · intro start last begins ends
      cases begins
      exact (change_of_climbs first last rest ends).1
    · intro start last begins ends
      cases begins
      exact (change_of_climbs first last rest ends).2
    · exact Int.le_of_eq (sum_climbs (first :: rest))

namespace RateTracker

/-- What a tracker reports for some documents, one after another. -/
def sheets (tracker : RateTracker) : List Json → List RateSheet
  | [] => []
  | document :: rest => (tracker.update document).1 :: (tracker.update document).2.sheets rest

/-- After the first report, each document is held against the one before it. -/
theorem tail_sheets (tracker : RateTracker) (documents : List Json) :
    (tracker.sheets documents).tail =
      documents.zipWith (fun before now => (SampleTable.ofDocument before).sheet now) documents.tail := by
  induction documents generalizing tracker with
  | nil => rfl
  | cons first rest ih =>
    cases rest with
    | nil => rfl
    | cons second rest =>
      have later := ih (tracker.update first).2
      rw [List.tail_cons] at later
      simp only [sheets, List.tail_cons, List.zipWith_cons_cons] at later ⊢
      rw [later]
      rfl

end RateTracker

variable {document first second : Json} {id : String}

theorem get?_sheet (previous : SampleTable) (ordered : document.IsOrdered) (id : String) :
    (previous.sheet document).get? id =
      (connectionSample? document id).map (Rate.since (Dictionary.get? previous id)) := by
  have found := Dictionary.get?_map (records document)
    (fun id record => Rate.since (Dictionary.get? previous id) (Sample.ofRecord record)) id
  rw [RateSheet.get?, connections_sheet previous ordered, found, connectionSample?, Option.map_map]
  rfl

theorem get?_sheet_ofDocument (firstOrdered : first.IsOrdered) (secondOrdered : second.IsOrdered)
    (named : id ≠ totalsKey) :
    ((SampleTable.ofDocument first).sheet second).get? id =
      (connectionSample? second id).map (Rate.since (connectionSample? first id)) := by
  have kept : (SampleTable.ofDocument first).get? id = connectionSample? first id := by
    rw [get?_ofDocument firstOrdered, keptSample?, if_neg named]
  rw [get?_sheet _ secondOrdered, kept]

/-- The rates from each sample to the next. -/
def Rate.course (samples : List Sample) : List Rate := samples.zipWith Rate.between samples.tail

private theorem map_upload_course (samples : List Sample) :
    (Rate.course samples).map Rate.upload = climbs (samples.map Sample.upload) := by
  rw [Rate.course, climbs, List.map_zipWith, ← List.map_tail, List.zipWith_map]
  rfl

private theorem map_download_course (samples : List Sample) :
    (Rate.course samples).map Rate.download = climbs (samples.map Sample.download) := by
  rw [Rate.course, climbs, List.map_zipWith, ← List.map_tail, List.zipWith_map]
  rfl

private theorem map_get?_sheets (tracker : RateTracker) {documents : List Json} {samples : List Sample}
    (ordered : ∀ document ∈ documents, document.IsOrdered) (named : id ≠ totalsKey)
    (sampled : documents.map (connectionSample? · id) = samples.map some) :
    (tracker.sheets documents).tail.map (·.get? id) = (Rate.course samples).map some := by
  rw [RateTracker.tail_sheets]
  induction documents generalizing samples with
  | nil =>
    have none : samples = [] := List.map_eq_nil_iff.mp sampled.symm
    rw [none]
    rfl
  | cons first rest ih =>
    obtain ⟨sample, later, rfl, begins, goesOn⟩ := List.map_eq_cons_iff.mp sampled.symm
    have shorter := ih (fun other member => ordered other (List.mem_cons_of_mem _ member)) goesOn.symm
    cases rest with
    | nil =>
      have none : later = [] := List.map_eq_nil_iff.mp goesOn
      rw [none]
      rfl
    | cons second rest =>
      obtain ⟨next, others, rfl, present, -⟩ := List.map_eq_cons_iff.mp goesOn
      have firstOrdered := ordered first List.mem_cons_self
      have secondOrdered := ordered second (List.mem_cons_of_mem _ List.mem_cons_self)
      have reported : ((SampleTable.ofDocument first).sheet second).get? id =
          some (Rate.between sample next) := by
        rw [get?_sheet_ofDocument firstOrdered secondOrdered named]
        exact congrArg₂ (fun before now => now.map (Rate.since before)) begins.symm present.symm
      rw [List.tail_cons] at shorter ⊢
      rw [List.zipWith_cons_cons, List.map_cons, shorter, reported]
      rfl

theorem get?_sheet_of_gap (firstOrdered : first.IsOrdered) (secondOrdered : second.IsOrdered)
    (named : id ≠ totalsKey) (missing : connectionSample? first id = none)
    (present : connectionSample? second id ≠ none) :
    ((SampleTable.ofDocument first).sheet second).get? id = some Rate.zero := by
  obtain ⟨sample, found⟩ := Option.ne_none_iff_exists'.mp present
  rw [get?_sheet_ofDocument firstOrdered secondOrdered named, missing, found]
  rfl

/-- The rates of a connection that is in all of some documents add up, in each counter, to the change from the
first document to the last or to more; to just that exactly if the counter never went back; and never to more
than it went up by. Where a connection comes back after a document without it, it has gained nothing. -/
theorem RateTracker.sheets_telescope (tracker : RateTracker) {documents : List Json}
    (ordered : ∀ document ∈ documents, document.IsOrdered) (named : id ≠ totalsKey) :
    (∀ samples : List Sample, documents.map (connectionSample? · id) = samples.map some →
      ∃ rates : List Rate, (tracker.sheets documents).tail.map (·.get? id) = rates.map some ∧
        Telescopes (samples.map Sample.upload) (rates.map Rate.upload) ∧
        Telescopes (samples.map Sample.download) (rates.map Rate.download)) ∧
    ∀ (place : Nat) (gap document : Json), documents[place]? = some gap →
      documents[place + 1]? = some document → connectionSample? gap id = none →
      connectionSample? document id ≠ none →
      ∃ sheet, (tracker.sheets documents)[place + 1]? = some sheet ∧ sheet.get? id = some Rate.zero := by
  constructor
  · intro samples sampled
    refine ⟨Rate.course samples, map_get?_sheets tracker ordered named sampled, ?_, ?_⟩
    · rw [map_upload_course]
      exact telescopes_climbs _
    · rw [map_download_course]
      exact telescopes_climbs _
  · intro place gap document before now missing present
    refine ⟨(SampleTable.ofDocument gap).sheet document, ?_, ?_⟩
    · rw [← List.getElem?_tail, tail_sheets, List.getElem?_zipWith, List.getElem?_tail, before, now]
    · have gapOrdered := ordered gap (List.mem_of_getElem? before)
      have documentOrdered := ordered document (List.mem_of_getElem? now)
      exact get?_sheet_of_gap gapOrdered documentOrdered named missing present

/-- A counter that goes back in the middle, and a connection that is away for two documents. -/
theorem RateTracker.sheets_telescope_reset :
    let record (download upload : Nat) : Json :=
      .object [("download", .ofNat download), ("upload", .ofNat upload)]
    let document (members : Json.Members) : Json := .object [("connections", .object members)]
    let steady := [document [("c", record 1 5)], document [("c", record 2 9)], document [("c", record 2 4)],
      document [("c", record 8 6)]]
    let away := [document [("c", record 1 5)], document [], document [("d", record 0 0)],
      document [("c", record 2 9)]]
    ((∀ document ∈ steady, document.IsOrdered) ∧ (∀ document ∈ away, document.IsOrdered) ∧ "c" ≠ totalsKey) ∧
      (∃ rates : List Rate, (({} : RateTracker).sheets steady).tail.map (·.get? "c") = rates.map some ∧
        Telescopes [5, 9, 4, 6] (rates.map Rate.upload) ∧ Telescopes [1, 2, 2, 8] (rates.map Rate.download)) ∧
      ∃ sheet, (({} : RateTracker).sheets away)[3]? = some sheet ∧ sheet.get? "c" = some Rate.zero := by
  intro record document steady away
  have steadyOrdered : ∀ document ∈ steady, document.IsOrdered :=
    Json.isOrdered_of_values? 3 (Json.Source.ofItems steady) steady rfl
  have awayOrdered : ∀ document ∈ away, document.IsOrdered :=
    Json.isOrdered_of_values? 3 (Json.Source.ofItems away) away rfl
  have named : "c" ≠ totalsKey := by decide
  have told := (RateTracker.sheets_telescope {} steadyOrdered named).1
    [⟨5, 1⟩, ⟨9, 2⟩, ⟨4, 2⟩, ⟨6, 8⟩] rfl
  have back := (RateTracker.sheets_telescope {} awayOrdered named).2 2 _ _ rfl rfl rfl nofun
  exact ⟨⟨steadyOrdered, awayOrdered, named⟩, told, back⟩

end ProxyWatch
