import ProxyWatch.Proofs.Data.Gathered
import ProxyWatch.Stream.ConnectionFeed

/-! The view of the live connections, told from the payloads alone.

The document shown is the last snapshot with the patches that were accepted after it. Callbacks that
bring no payload change nothing but the status. -/
namespace ProxyWatch.Stream

/-- The payloads that some callbacks bring. -/
def payloads (callbacks : List Callback) : List String :=
  callbacks.filterMap fun
    | .message payload => some payload
    | _ => none

theorem payloads_append (first second : List Callback) :
    payloads (first ++ second) = payloads first ++ payloads second := by
  simp [payloads]

/-- The document of a payload that is a full snapshot. -/
def snapshot? (payload : String) : Option Json :=
  match Message.parse? payload with
  | some (.full document) => some document
  | _ => none

/-- A document with the patch of a payload applied. A payload that is no patch, or whose patch is
rejected, leaves the document as it is. -/
def patched (document : Json) (payload : String) : Json :=
  match Message.parse? payload with
  | some (.patch patch) => (patch.apply document).toOption.getD document
  | _ => document

/-- The most recent snapshot among some payloads, and the payloads after it. -/
def lastSnapshot? : List String → Option (Json × List String)
  | [] => none
  | payload :: rest =>
    match lastSnapshot? rest with
    | some found => some found
    | none => (snapshot? payload).map fun document => (document, rest)

/-- The document that some payloads lead to: none before the first snapshot. -/
def documentOf (received : List String) : Option Json :=
  (lastSnapshot? received).map fun (snapshot, later) => later.foldl patched snapshot

/-- A payload is accepted if it is a snapshot, or a patch that applies to the document that the
payloads before it lead to. -/
def isAccepted (earlier : List String) (payload : String) : Bool :=
  match Message.parse? payload with
  | some (.full _) => true
  | some (.patch patch) =>
    match documentOf earlier with
    | some document => (patch.apply document).toOption.isSome
    | none => false
  | none => false

/-- How many of some payloads are accepted after earlier ones. -/
def acceptedAfter (earlier : List String) : List String → Nat
  | [] => 0
  | payload :: rest =>
    (if isAccepted earlier payload then 1 else 0) + acceptedAfter (earlier ++ [payload]) rest

/-- Some payload was rejected, and there was no snapshot after it. -/
def RejectedSinceSnapshot (received : List String) : Prop :=
  ∃ earlier payload later, received = earlier ++ payload :: later ∧
    isAccepted earlier payload = false ∧ ∀ other ∈ later, snapshot? other = none

theorem snapshot?_full (parsed : Message.parse? payload = some (.full document)) :
    snapshot? payload = some document := by
  simp [snapshot?, parsed]

theorem snapshot?_patch (parsed : Message.parse? payload = some (.patch patch)) :
    snapshot? payload = none := by
  simp [snapshot?, parsed]

private theorem snapshot?_unread (parsed : Message.parse? payload = none) : snapshot? payload = none := by
  simp [snapshot?, parsed]

private theorem snapshot?_rejected (rejected : isAccepted earlier payload = false) :
    snapshot? payload = none := by
  cases parsed : Message.parse? payload with
  | none => exact snapshot?_unread parsed
  | some message =>
    cases message with
    | full document => simp [isAccepted, parsed] at rejected
    | patch patch => exact snapshot?_patch parsed

theorem lastSnapshot?_append (first second : List String) :
    lastSnapshot? (first ++ second) = (lastSnapshot? second).or
      ((lastSnapshot? first).map fun (snapshot, later) => (snapshot, later ++ second)) := by
  induction first with
  | nil => simp [lastSnapshot?]
  | cons head rest ih =>
    simp only [List.cons_append, lastSnapshot?, ih]
    cases lastSnapshot? second with
    | some found => rfl
    | none =>
      cases lastSnapshot? rest with
      | some found => rfl
      | none => cases snapshot? head <;> rfl

theorem documentOf_append (first second : List String) :
    documentOf (first ++ second) =
      (documentOf second).or ((documentOf first).map fun document => second.foldl patched document) := by
  rw [documentOf, lastSnapshot?_append, documentOf, documentOf]
  cases lastSnapshot? second with
  | some found => rfl
  | none =>
    cases lastSnapshot? first with
    | none => rfl
    | some found => simp

theorem documentOf_append_snapshot (received : List String)
    (found : snapshot? payload = some document) :
    documentOf (received ++ [payload]) = some document := by
  rw [documentOf_append]
  simp [documentOf, lastSnapshot?, found]

theorem documentOf_append_other (received : List String) (other : snapshot? payload = none) :
    documentOf (received ++ [payload]) = (documentOf received).map (patched · payload) := by
  rw [documentOf_append]
  simp [documentOf, lastSnapshot?, other]

private theorem documentOf_append_rejected (received : List String)
    (rejected : isAccepted received payload = false) :
    documentOf (received ++ [payload]) = documentOf received := by
  rw [documentOf_append_other received (snapshot?_rejected rejected)]
  cases shown : documentOf received with
  | none => rfl
  | some document =>
    cases parsed : Message.parse? payload with
    | none => simp [patched, parsed]
    | some message =>
      cases message with
      | full snapshot => simp [isAccepted, parsed] at rejected
      | patch patch =>
        have failed : (patch.apply document).toOption = none := by
          simpa [isAccepted, parsed, shown] using rejected
        simp [patched, parsed, failed]

theorem acceptedAfter_append (first second : List String) :
    ∀ earlier, acceptedAfter earlier (first ++ second) =
      acceptedAfter earlier first + acceptedAfter (earlier ++ first) second := by
  induction first with
  | nil => intro earlier; simp [acceptedAfter]
  | cons head rest ih =>
    intro earlier
    simp only [List.cons_append, acceptedAfter, ih (earlier ++ [head]), List.append_assoc,
      List.nil_append]
    omega

theorem rejectedSinceSnapshot_append (received : List String) (payload : String) :
    RejectedSinceSnapshot (received ++ [payload]) ↔
      isAccepted received payload = false ∨
        (snapshot? payload = none ∧ RejectedSinceSnapshot received) := by
  constructor
  · rintro ⟨earlier, rejected, later, same, refused, none⟩
    obtain ⟨-, rfl, rfl⟩ | ⟨later, rfl, rfl⟩ := concat_eq_append_cons same
    · exact .inl refused
    · exact .inr ⟨none payload (by simp), earlier, rejected, later, rfl, refused,
        fun other member => none other (by simp [member])⟩
  · rintro (refused | ⟨other, earlier, rejected, later, rfl, refused, none⟩)
    · exact ⟨received, payload, [], rfl, refused, by simp⟩
    · refine ⟨earlier, rejected, later ++ [payload], by simp, refused, ?_⟩
      intro next member
      rcases List.mem_append.mp member with old | last
      · exact none next old
      · obtain rfl := List.mem_singleton.mp last
        exact other

namespace ConnectionFeed

/-- The feed after some callbacks, first to last. -/
def after (callbacks : List Callback) : ConnectionFeed :=
  callbacks.foldl (fun feed callback => (feed.react callback).2) {}

theorem after_concat (callbacks : List Callback) (callback : Callback) :
    after (callbacks ++ [callback]) = ((after callbacks).react callback).2 := by
  simp [after]

/-- What a feed knows of the payloads that it has received. The status is not told from the payloads,
but while it says that the stream is live it agrees with the pending resync. -/
structure Reflects (feed : ConnectionFeed) (received : List String) : Prop where
  baseline : feed.reconciler.baseline = documentOf received
  document : feed.view.document = documentOf received
  updates : feed.view.updates = acceptedAfter [] received
  pending : feed.resyncPending = true ↔ RejectedSinceSnapshot received
  connected : feed.view.status = .connected → feed.resyncPending = false
  stale : feed.view.status = .stale → feed.resyncPending = true

theorem setStatus_eq (feed : ConnectionFeed) (status : Status) :
    (feed.setStatus status).2 = { feed with view := { feed.view with status } } := by
  unfold setStatus
  split
  · rename_i shown
    rw [← shown]
  · rfl

theorem liveStatus_eq_connected (feed : ConnectionFeed) :
    feed.liveStatus = .connected ↔ feed.resyncPending = false := by
  cases pending : feed.resyncPending <;> simp [liveStatus, pending]

theorem liveStatus_eq_stale (feed : ConnectionFeed) :
    feed.liveStatus = .stale ↔ feed.resyncPending = true := by
  cases pending : feed.resyncPending <;> simp [liveStatus, pending]

/-- Only the pending resync decides whether a status fits. -/
theorem Reflects.setStatus (known : Reflects feed received) (status : Status)
    (connected : status = .connected → feed.resyncPending = false)
    (stale : status = .stale → feed.resyncPending = true) :
    Reflects (feed.setStatus status).2 received := by
  rw [setStatus_eq]
  exact { known with connected, stale }

theorem Reflects.liveStatus (known : Reflects feed received) :
    Reflects (feed.setStatus feed.liveStatus).2 received := by
  exact known.setStatus _ (liveStatus_eq_connected feed).mp (liveStatus_eq_stale feed).mp

theorem documentAfter_accepted (known : Reflects feed received)
    (accepted : isAccepted received payload = true) :
    ∃ message document, feed.documentAfter payload = .ok (message, document) ∧
      documentOf (received ++ [payload]) = some document ∧
      message.isFull = (snapshot? payload).isSome := by
  cases parsed : Message.parse? payload with
  | none => simp [isAccepted, parsed] at accepted
  | some message =>
    cases message with
    | full document =>
      have found := snapshot?_full parsed
      exact ⟨.full document, document, by simp [documentAfter, parsed],
        documentOf_append_snapshot received found, by simp [found, Message.isFull]⟩
    | patch patch =>
      have other := snapshot?_patch parsed
      cases shown : documentOf received with
      | none => simp [isAccepted, parsed, shown] at accepted
      | some baseline =>
        cases applied : patch.apply baseline with
        | error rejection =>
          simp [isAccepted, parsed, shown, applied, Except.toOption] at accepted
        | ok document =>
          refine ⟨.patch patch, document, ?_, ?_, by simp [other, Message.isFull]⟩
          · simp [documentAfter, parsed, Reconciler.next, known.baseline, shown, applied]
          · simp [documentOf_append_other received other, shown, patched, parsed, applied,
              Except.toOption]

theorem documentAfter_rejected (known : Reflects feed received)
    (rejected : isAccepted received payload = false) :
    ∃ error, feed.documentAfter payload = .error error := by
  cases parsed : Message.parse? payload with
  | none => exact ⟨.parse, by simp [documentAfter, parsed]⟩
  | some message =>
    cases message with
    | full document => simp [isAccepted, parsed] at rejected
    | patch patch =>
      cases shown : documentOf received with
      | none =>
        exact ⟨.patch .noBaseline, by
          simp [documentAfter, parsed, Reconciler.next, known.baseline, shown]⟩
      | some baseline =>
        cases applied : patch.apply baseline with
        | ok document => simp [isAccepted, parsed, shown, applied, Except.toOption] at rejected
        | error rejection =>
          exact ⟨.patch (.rejected rejection), by
            simp [documentAfter, parsed, Reconciler.next, known.baseline, shown, applied]⟩

/-- An accepted payload is published, and only a snapshot settles a pending resync. -/
theorem Reflects.accept (known : Reflects feed received)
    (accepted : isAccepted received payload = true) :
    Reflects (feed.react (.message payload)).2 (received ++ [payload]) := by
  obtain ⟨message, document, success, shown, full⟩ := documentAfter_accepted known accepted
  have counted := acceptedAfter_append received [payload] []
  simp only [List.nil_append, acceptedAfter, accepted, if_true] at counted
  have settled : (feed.resyncPending && !message.isFull) = true ↔
      RejectedSinceSnapshot (received ++ [payload]) := by
    rw [rejectedSinceSnapshot_append, ← known.pending, full, accepted]
    cases snapshot? payload <;> simp
  simp only [react, handle, success]
  refine ⟨shown.symm, shown.symm, ?_, settled, ?_, ?_⟩
  · rw [counted, known.updates]
  · exact (liveStatus_eq_connected _).mp
  · exact (liveStatus_eq_stale _).mp

/-- A rejected payload leaves the document and the count, and makes the view stale. -/
theorem Reflects.reject (known : Reflects feed received)
    (rejected : isAccepted received payload = false) :
    Reflects (feed.react (.message payload)).2 (received ++ [payload]) := by
  obtain ⟨error, failure⟩ := documentAfter_rejected known rejected
  have same := documentOf_append_rejected received rejected
  have counted := acceptedAfter_append received [payload] []
  simp only [List.nil_append, acceptedAfter, rejected, Bool.false_eq_true, if_false,
    Nat.add_zero] at counted
  simp only [react, handle, failure, setStatus_eq]
  refine ⟨?_, ?_, ?_, ?_, by simp, by simp⟩
  · rw [same, known.baseline]
  · rw [same, known.document]
  · rw [counted, known.updates]
  · simp [rejectedSinceSnapshot_append, rejected]

/-- One callback keeps what is known of the payloads. -/
theorem Reflects.react (known : Reflects feed received) (callback : Callback) :
    Reflects (feed.react callback).2 (received ++ payloads [callback]) := by
  cases callback with
  | message payload =>
    cases verdict : isAccepted received payload with
    | true => exact known.accept verdict
    | false => exact known.reject verdict
  | opened => simpa [payloads, ConnectionFeed.react] using known.liveStatus
  | closed reason =>
    have status : Status.afterClose reason ≠ .connected ∧ Status.afterClose reason ≠ .stale := by
      cases reason <;> simp [Status.afterClose]
    simpa [payloads, ConnectionFeed.react] using known.setStatus _
      (fun live => absurd live status.1) (fun stale => absurd stale status.2)
  | reconnecting attempt =>
    simpa [payloads, ConnectionFeed.react] using known.setStatus (.reconnecting attempt) (by simp)
      (by simp)

theorem Reflects.start : Reflects {} [] := by
  refine ⟨rfl, rfl, rfl, ?_, by simp, by simp⟩
  simp [RejectedSinceSnapshot]

/-- What is known of the payloads holds after every run of callbacks. -/
theorem reflects_after (callbacks : List Callback) : Reflects (after callbacks) (payloads callbacks) := by
  induction callbacks using List.reverseRecOn with
  | nil => exact Reflects.start
  | append_singleton earlier callback known =>
    rw [after_concat, payloads_append]
    exact known.react callback

/-- After any callbacks in any order, the document and the count of updates are told from the payloads
alone; a stream that is shown as connected has rejected nothing since its last snapshot, and one that
is shown as stale has. -/
theorem view_eq_of_payloads (callbacks : List Callback) :
    (after callbacks).view.document = documentOf (payloads callbacks) ∧
    (after callbacks).view.updates = acceptedAfter [] (payloads callbacks) ∧
    ((after callbacks).view.status = .connected → ¬ RejectedSinceSnapshot (payloads callbacks)) ∧
    ((after callbacks).view.status = .stale → RejectedSinceSnapshot (payloads callbacks)) := by
  have known := reflects_after callbacks
  refine ⟨known.document, known.updates, ?_, ?_⟩
  · intro live rejected
    have pending := known.pending.mpr rejected
    rw [known.connected live] at pending
    cases pending
  · intro stale
    exact known.pending.mp (known.stale stale)

end ConnectionFeed
end ProxyWatch.Stream
