import ProxyWatch.Proofs.Document.Ordered
import ProxyWatch.Proofs.Stream.ViewHistory
import ProxyWatch.Proofs.Traffic.Gains

/-! What a feed remembers beside its view: the baseline of its patches and the samples of its rates.

Both are those of the document shown, whatever has been called back. So the rates of a document are
those since the document shown before it, with any number of drops and rejected messages between. -/
namespace ProxyWatch.Stream

/-- The samples of the document shown, if there is one. -/
def samplesOf (shown : Option Json) : SampleTable := (shown.map SampleTable.ofDocument).getD []

private theorem lastSnapshot?_isOrdered {received : List String}
    (found : lastSnapshot? received = some (snapshot, later)) : snapshot.IsOrdered := by
  induction received with
  | nil => cases found
  | cons payload rest ih =>
    cases earlier : lastSnapshot? rest with
    | some _ =>
      rw [lastSnapshot?, earlier] at found
      exact ih (earlier.trans found)
    | none =>
      rw [lastSnapshot?, earlier] at found
      obtain ⟨document, snapped, same⟩ := Option.map_eq_some_iff.mp found
      cases same
      unfold snapshot? at snapped
      split at snapped
      · rename_i parsed
        cases snapped
        exact Message.isOrdered_of_parse? parsed
      · cases snapped

private theorem patched_isOrdered (ordered : document.IsOrdered) (payload : String) :
    (patched document payload).IsOrdered := by
  unfold patched
  split
  · rename_i patch parsed
    cases applied : patch.apply document with
    | ok next => exact Patch.isOrdered_of_apply (Message.isOrdered_of_parse? parsed) ordered applied
    | error rejection => exact ordered
  · exact ordered

/-- Every document that some payloads lead to is in order. -/
theorem documentOf_isOrdered {received : List String} (shown : documentOf received = some document) :
    document.IsOrdered := by
  obtain ⟨⟨snapshot, later⟩, found, rfl⟩ := Option.map_eq_some_iff.mp shown
  have ordered := lastSnapshot?_isOrdered found
  clear found shown
  induction later generalizing snapshot with
  | nil => exact ordered
  | cons payload rest ih => exact ih _ (patched_isOrdered ordered payload)

namespace ConnectionFeed
variable {feed next last : ConnectionFeed} {callbacks : List Callback} {payload : String}
  {received : List String}

/-- The baseline and the samples are those of the document shown. -/
structure IsSampled (feed : ConnectionFeed) : Prop where
  baseline : feed.reconciler.baseline = feed.view.document
  samples : feed.rates.samples = samplesOf feed.view.document

/-- Nothing but the status, and whether a resync is pending, is another than before. -/
structure Keeps (feed next : ConnectionFeed) : Prop where
  baseline : next.reconciler.baseline = feed.reconciler.baseline
  samples : next.rates.samples = feed.rates.samples
  document : next.view.document = feed.view.document
  rates : next.view.rates = feed.view.rates
  updates : next.view.updates = feed.view.updates

/-- A document is published, with its rates against the samples remembered so far. -/
structure Publishes (feed next : ConnectionFeed) (published : Json) : Prop where
  baseline : next.reconciler.baseline = some published
  samples : next.rates.samples = .ofDocument published
  document : next.view.document = some published
  rates : next.view.rates = feed.rates.samples.sheet published
  updates : next.view.updates = feed.view.updates + 1

theorem Keeps.refl (feed : ConnectionFeed) : Keeps feed feed := ⟨rfl, rfl, rfl, rfl, rfl⟩

theorem Keeps.trans (first : Keeps feed next) (second : Keeps next last) : Keeps feed last where
  baseline := second.baseline.trans first.baseline
  samples := second.samples.trans first.samples
  document := second.document.trans first.document
  rates := second.rates.trans first.rates
  updates := second.updates.trans first.updates

theorem Keeps.setStatus (feed : ConnectionFeed) (status : Status) :
    Keeps feed (feed.setStatus status).2 := by
  rw [setStatus_eq]
  exact ⟨rfl, rfl, rfl, rfl, rfl⟩

theorem Keeps.isSampled (kept : Keeps feed next) (sampled : feed.IsSampled) : next.IsSampled where
  baseline := by rw [kept.baseline, kept.document, sampled.baseline]
  samples := by rw [kept.samples, kept.document, sampled.samples]

theorem Publishes.isSampled {document : Json} (published : Publishes feed next document) : next.IsSampled where
  baseline := by rw [published.baseline, published.document]
  samples := by
    rw [published.samples, published.document]
    rfl

private theorem keeps_of_rejected (known : Reflects feed received)
    (rejected : isAccepted received payload = false) :
    Keeps feed (feed.react (.message payload)).2 := by
  obtain ⟨error, failure⟩ := documentAfter_rejected known rejected
  have handled : feed.handle payload = (.error error, { feed with resyncPending := true }) := by
    simp [handle, failure]
  have unread : Keeps feed { feed with resyncPending := true } := ⟨rfl, rfl, rfl, rfl, rfl⟩
  simp only [react, handled]
  exact unread.trans (.setStatus _ _)

theorem keeps_of_quiet (known : Reflects feed received)
    (quiet : acceptedAfter received (payloads [callback]) = 0) :
    Keeps feed (feed.react callback).2 := by
  cases callback with
  | message payload =>
    have rejected : isAccepted received payload = false := by
      simpa [payloads, acceptedAfter] using quiet
    exact keeps_of_rejected known rejected
  | opened => exact .setStatus feed _
  | closed reason => exact .setStatus feed _
  | reconnecting attempt => exact .setStatus feed _

theorem publishes_of_accepted (known : Reflects feed received)
    (accepted : isAccepted received payload = true) :
    ∃ document, documentOf (received ++ [payload]) = some document ∧
      Publishes feed (feed.react (.message payload)).2 document := by
  obtain ⟨message, document, success, shown, -⟩ := documentAfter_accepted known accepted
  refine ⟨document, shown, ?_⟩
  simp only [react, handle, success]
  exact ⟨rfl, rfl, rfl, rfl, rfl⟩

private theorem keeps_after (quiet : List Callback) :
    ∀ callbacks, acceptedAfter (payloads callbacks) (payloads quiet) = 0 →
      Keeps (after callbacks) (after (callbacks ++ quiet)) := by
  induction quiet with
  | nil =>
    intro callbacks _
    rw [List.append_nil]
    exact Keeps.refl _
  | cons callback rest ih =>
    intro callbacks nothing
    rw [← List.singleton_append, payloads_append, acceptedAfter_append, Nat.add_eq_zero_iff,
      ← payloads_append] at nothing
    have first := keeps_of_quiet (reflects_after callbacks) nothing.1
    have later := ih (callbacks ++ [callback]) nothing.2
    rw [after_concat, List.append_assoc] at later
    exact first.trans later

/-- A callback keeps everything but the status, or it publishes a document. -/
theorem react_cases (known : Reflects feed received) (callback : Callback) :
    Keeps feed (feed.react callback).2 ∨
      ∃ document, Publishes feed (feed.react callback).2 document := by
  by_cases quiet : acceptedAfter received (payloads [callback]) = 0
  · exact .inl (keeps_of_quiet known quiet)
  · cases callback with
    | opened | closed | reconnecting => exact absurd rfl quiet
    | message payload =>
      have accepted : isAccepted received payload = true := by
        simpa [payloads, acceptedAfter] using quiet
      obtain ⟨document, -, published⟩ := publishes_of_accepted known accepted
      exact .inr ⟨document, published⟩

theorem isSampled_after (callbacks : List Callback) : (after callbacks).IsSampled := by
  induction callbacks using List.reverseRecOn with
  | nil => exact ⟨rfl, rfl⟩
  | append_singleton earlier callback sampled =>
    rw [after_concat]
    obtain kept | ⟨document, published⟩ := react_cases (reflects_after earlier) callback
    · exact kept.isSampled sampled
    · exact published.isSampled

/-- At all times the baseline and the samples are those of the document shown. Callbacks that bring no
message that is accepted leave all of this, the rates and the count of updates as they are, and the next
message that is accepted is counted once and shown with its rates since the document shown before. -/
theorem state_of_document (callbacks : List Callback) :
    let feed := after callbacks
    feed.reconciler.baseline = feed.view.document ∧
    feed.rates.samples = samplesOf feed.view.document ∧
    ∀ quiet, acceptedAfter (payloads callbacks) (payloads quiet) = 0 →
      Keeps feed (after (callbacks ++ quiet)) ∧
      ∀ payload, isAccepted (payloads (callbacks ++ quiet)) payload = true →
        let next := after (callbacks ++ quiet ++ [.message payload])
        ∃ document, documentOf (payloads (callbacks ++ quiet ++ [.message payload])) = some document ∧
          next.view.document = some document ∧
          next.view.rates = (samplesOf feed.view.document).sheet document ∧
          next.view.updates = feed.view.updates + 1 := by
  intro feed
  have sampled := isSampled_after callbacks
  refine ⟨sampled.baseline, sampled.samples, fun quiet nothing => ?_⟩
  have kept := keeps_after quiet callbacks nothing
  refine ⟨kept, fun payload accepted => ?_⟩
  obtain ⟨document, shown, published⟩ := publishes_of_accepted (reflects_after _) accepted
  rw [← after_concat] at published
  refine ⟨document, ?_, published.document, ?_, ?_⟩
  · rw [payloads_append]
    exact shown
  · rw [published.rates, kept.samples, sampled.samples]
  · rw [published.updates, kept.updates]

/-- A patch that is accepted after a rejected message and a drop. -/
theorem state_of_document_after_drop :
    let full := "\x7b\"full\":\x7b\"total_upload\":5\x7d\x7d"
    let patch :=
      "\x7b\"patch\":[\x7b\"op\":\"replace\",\"path\":\"/total_upload\",\"value\":9\x7d]\x7d"
    let callbacks : List Callback := [.opened, .message full]
    let quiet : List Callback := [.message "x", .closed .remote, .reconnecting 1, .opened]
    let feed := after callbacks
    let next := after (callbacks ++ quiet ++ [.message patch])
    (acceptedAfter (payloads callbacks) (payloads quiet) = 0 ∧
      isAccepted (payloads (callbacks ++ quiet)) patch = true) ∧
      Keeps feed (after (callbacks ++ quiet)) ∧
      ∃ document, documentOf (payloads (callbacks ++ quiet ++ [.message patch])) = some document ∧
        next.view.document = some document ∧
        next.view.rates = (samplesOf feed.view.document).sheet document ∧
        next.view.updates = feed.view.updates + 1 := by
  intro full patch callbacks quiet feed next
  have nothing : acceptedAfter (payloads callbacks) (payloads quiet) = 0 := by decide +kernel
  have accepted : isAccepted (payloads (callbacks ++ quiet)) patch = true := by decide +kernel
  obtain ⟨kept, published⟩ := (state_of_document callbacks).2.2 quiet nothing
  exact ⟨⟨nothing, accepted⟩, kept, published patch accepted⟩

/-- The rates of a document are the gains since the document shown before it. -/
theorem rates_tellsGains (callbacks : List Callback) (shown : (after callbacks).view.document = some first)
    (accepted : isAccepted (payloads callbacks) payload = true) :
    ∃ second, (after (callbacks ++ [.message payload])).view.document = some second ∧
      (after (callbacks ++ [.message payload])).view.rates.TellsGains (keptSample? first)
        (keptSample? first SampleTable.totalsKey) second := by
  have known := reflects_after callbacks
  obtain ⟨second, reached, published⟩ := publishes_of_accepted known accepted
  have samples := (isSampled_after callbacks).samples
  rw [shown] at samples
  rw [← after_concat] at published
  refine ⟨second, published.document, ?_⟩
  rw [published.rates, samples]
  have firstOrdered := documentOf_isOrdered (known.document.symm.trans shown)
  exact sheet_ofDocument_tellsGains firstOrdered (documentOf_isOrdered reached)

end ConnectionFeed
end ProxyWatch.Stream
