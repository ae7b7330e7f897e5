import ProxyWatch.Proofs.Log.Retention
import ProxyWatch.Proofs.Stream.Correspondence

/-! What a log stream takes in: every entry that comes is counted once, and the buffer takes it or refuses it.

The driver first puts an entry into the buffer and then announces it. The consumer may pause, resume or clear
the buffer between any two steps of the driver, also between these two. -/
namespace ProxyWatch

namespace EventBuffer

/-- The entry that a call appends. -/
def Call.appended? : Call → Option LogEntry
  | .append entry => some entry
  | .pause | .resume | .togglePause | .clear => none

/-- How many of the entries appended the buffer said it took. -/
def accepted (capacity : Nat) : List Call → Nat
  | [] => 0
  | .append entry :: earlier =>
    accepted capacity earlier + if ((after capacity earlier).append entry).1 then 1 else 0
  | .pause :: earlier | .resume :: earlier | .togglePause :: earlier | .clear :: earlier =>
    accepted capacity earlier

theorem discarded_append (buffer : EventBuffer) (entry : LogEntry) :
    (buffer.append entry).2.discarded + (if (buffer.append entry).1 then 1 else 0) = buffer.discarded + 1 := by
  cases paused : buffer.paused <;> simp [append, paused]

private theorem discarded_add_accepted (capacity : Nat) (calls : List Call) :
    (after capacity calls).discarded + accepted capacity calls = (calls.filterMap Call.appended?).length := by
  induction calls with
  | nil => rfl
  | cons call earlier ih =>
    cases call with
    | append entry =>
      have appended := discarded_append (after capacity earlier) entry
      have counted : ((Call.append entry :: earlier).filterMap Call.appended?).length =
        (earlier.filterMap Call.appended?).length + 1 := rfl
      simp only [after, perform, accepted]
      omega
    | pause | resume | togglePause | clear => exact ih

end EventBuffer

namespace Stream

/-- The entry that a callback brings. -/
def Callback.arrival? : Callback → Option LogEntry
  | .message payload => LogEntry.parse? payload
  | _ => none

theorem LogFeed.react_of_no_entry (feed : LogFeed) {callback : Callback} (mute : callback.arrival? = none) :
    (feed.react callback).2.buffer = feed.buffer ∧
      (feed.react callback).2.report.received = feed.report.received := by
  have status (status : Status) : (feed.setStatus status).2.buffer = feed.buffer ∧
      (feed.setStatus status).2.report.received = feed.report.received := by
    unfold LogFeed.setStatus
    split <;> exact ⟨rfl, rfl⟩
  cases callback with
  | message payload =>
    have unread : LogEntry.parse? payload = none := mute
    simp [LogFeed.react, LogFeed.handle, unread]
  | opened | closed | reconnecting => exact status _

private theorem Driver.delivering_of_advance {driver : Driver} {link : Link} {payload : String}
    (told : (driver.advance link).2.2 = [.message payload]) : driver.point = .delivering payload := by
  unfold advance at told
  cases point : driver.point with
  | delivering other =>
    simp only [point, tell] at told
    split at told <;> cases told
    rfl
  | lost =>
    simp only [point] at told
    split at told <;> cases told
  | greeting | dropping | retrying | abandoning =>
    simp only [point, tell] at told
    split at told <;> cases told
  | starting | accepted | connecting | reading | waiting | finished => simp [point] at told

private theorem Run.delivering_of_told {run next : Run} {move : Move} {payload : String}
    (performed : run.perform move = some next) (told : next.calls = run.calls ++ [.message payload]) :
    move = .drive ∧ run.driver.point = .delivering payload := by
  have silent (same : next.calls = run.calls) : False := by
    rw [same] at told
    exact absurd (congrArg List.length told) (by simp)
  cases move with
  | drive =>
    simp only [perform, Option.ite_none_left_eq_some, Option.some.injEq] at performed
    obtain ⟨-, rfl⟩ := performed
    rw [calls_advance] at told
    exact ⟨rfl, Driver.delivering_of_advance (List.append_cancel_left told)⟩
  | dial | stop =>
    simp only [perform, Option.ite_none_right_eq_some, Option.some.injEq] at performed
    obtain ⟨-, rfl⟩ := performed
    exact (silent rfl).elim
  | hear =>
    simp only [perform, Option.ite_none_right_eq_some, Option.map_eq_some_iff] at performed
    obtain ⟨-, heard, -, rfl⟩ := performed
    exact (silent rfl).elim
  | detach | conclude | signalStop =>
    cases performed
    exact (silent rfl).elim

/-- What a consumer does to the buffer of its stream. -/
inductive Edit where
  | pause
  | resume
  | togglePause
  | clear
  deriving DecidableEq, Repr

def Edit.call : Edit → EventBuffer.Call
  | pause => .pause
  | resume => .resume
  | togglePause => .togglePause
  | clear => .clear

/-- A log stream whose entries are handled in two steps. While an entry is handled, which has been put into
the buffer and not been announced, the driver does nothing else, and a close waits for it. What has been
done to the buffer is kept latest first. -/
structure LogIntake where
  run : Run
  feed : LogFeed
  isHandling : Bool := false
  publications : Nat := 0
  deeds : List EventBuffer.Call := []

namespace LogIntake

inductive Turn where
  | stream (move : Move)
  | announce
  | edit (edit : Edit)
  deriving DecidableEq, Repr

def Turn.edit? : Turn → Option Edit
  | .edit change => some change
  | .stream _ | .announce => none

def start (policy : Policy) (scripts : List Script) (capacity : Nat) : LogIntake :=
  { run := .start policy scripts, feed := .empty capacity }

/-- The entries of the payloads that have come, first to last. -/
def arrived (intake : LogIntake) : List LogEntry := intake.run.calls.filterMap (·.arrival?)

/-- Takes a callback to the feed; an entry is only put into the buffer. -/
def hear (intake : LogIntake) (callback : Callback) : LogIntake :=
  match callback.arrival? with
  | some entry =>
    { intake with
      feed := (intake.feed.keep entry).2
      isHandling := true
      deeds := .append entry :: intake.deeds }
  | none =>
    let (isPublished, feed) := intake.feed.react callback
    { intake with feed, publications := intake.publications + if isPublished then 1 else 0 }

def moveOn (intake : LogIntake) (next : Run) : LogIntake :=
  (Live.callbacksSince intake.run next).foldl hear { intake with run := next }

/-- Announces the entry that is handled. -/
def announce (intake : LogIntake) : LogIntake :=
  if intake.isHandling then
    { intake with
      feed := intake.feed.announce
      isHandling := false
      publications := intake.publications + 1 }
  else intake

def adjust (intake : LogIntake) (edit : Edit) : LogIntake :=
  { intake with
    feed := intake.feed.onBuffer (·.perform edit.call)
    deeds := edit.call :: intake.deeds }

/-- A turn that is not possible changes nothing. -/
def perform (intake : LogIntake) : Turn → LogIntake
  | .stream move =>
    if intake.isHandling then intake
    else
      match intake.run.perform move with
      | some next => intake.moveOn next
      | none => intake
  | .announce => intake.announce
  | .edit edit => intake.adjust edit

def follow (intake : LogIntake) (turns : List Turn) : LogIntake := turns.foldl perform intake

variable {capacity : Nat} {intake : LogIntake} {next : Run} {move : Move} {callback : Callback}

theorem moveOn_of_silent (silent : next.calls = intake.run.calls) :
    intake.moveOn next = { intake with run := next } := by
  rw [moveOn, Live.callbacksSince_of_silent silent]
  rfl

theorem moveOn_of_told (told : next.calls = intake.run.calls ++ [callback]) :
    intake.moveOn next = ({ intake with run := next } : LogIntake).hear callback := by
  rw [moveOn, Live.callbacksSince_eq told]
  rfl

theorem hear_of_arrival {entry : LogEntry} (brought : callback.arrival? = some entry) :
    intake.hear callback =
      { intake with
        feed := (intake.feed.keep entry).2
        isHandling := true
        deeds := .append entry :: intake.deeds } := by
  simp only [hear, brought]

theorem hear_of_no_arrival (mute : callback.arrival? = none) :
    intake.hear callback =
      { intake with
        feed := (intake.feed.react callback).2
        publications := intake.publications + if (intake.feed.react callback).1 then 1 else 0 } := by
  simp only [hear, mute]

theorem hear_message_eq_self_iff (intake : LogIntake) (payload : String) :
    intake.hear (.message payload) = intake ↔ LogEntry.parse? payload = none := by
  constructor
  · intro same
    cases read : LogEntry.parse? payload with
    | none => rfl
    | some entry =>
      have brought : (Callback.message payload).arrival? = some entry := read
      rw [hear_of_arrival brought] at same
      exact absurd (congrArg deeds same) (List.cons_ne_self _ _)
  · intro unread
    have mute : (Callback.message payload).arrival? = none := unread
    rw [hear_of_no_arrival mute]
    simp [LogFeed.react, LogFeed.handle, unread]

private theorem announce_hear (idle : intake.isHandling = false) (callback : Callback) :
    (intake.hear callback).announce.run = intake.run ∧
      (intake.hear callback).announce.isHandling = false ∧
      (intake.hear callback).announce.feed = (intake.feed.react callback).2 := by
  cases brought : callback.arrival? with
  | none => simp [hear_of_no_arrival brought, announce, idle]
  | some entry =>
    cases callback with
    | opened | closed | reconnecting => cases brought
    | message payload =>
      have read : LogEntry.parse? payload = some entry := brought
      simp [hear_of_arrival brought, announce, LogFeed.react, LogFeed.handle, read]

private theorem announce_perform (idle : intake.isHandling = false) (performed : intake.run.perform move = some next) :
    let announced := (intake.perform (.stream move)).perform .announce
    announced.run = next ∧ announced.isHandling = false ∧
      announced.feed = LogFeed.display.after intake.feed (Live.callbacksSince intake.run next) := by
  have moved : intake.perform (.stream move) = intake.moveOn next := by simp [perform, idle, performed]
  rw [moved]
  obtain silent | ⟨callback, told⟩ := Run.calls_of_perform performed
  · rw [moveOn_of_silent silent, Live.callbacksSince_of_silent silent]
    simp [perform, announce, idle, Display.after]
  · rw [moveOn_of_told told, Live.callbacksSince_eq told]
    exact announce_hear (by exact idle) callback

/-- A live stream that is moved on is one of these, whose entries are all announced at once. -/
theorem follow_announced {moves : List Move} {last : Run} (stream : LogStream)
    (same : intake.run = stream.run ∧ intake.isHandling = false ∧ intake.feed = stream.feed)
    (reached : stream.run.follow moves = some last) :
    let announced := intake.follow (moves.flatMap fun move => [.stream move, .announce])
    announced.run = last ∧ announced.isHandling = false ∧
      announced.feed = (stream.moveOn fun _ => last).feed := by
  induction moves generalizing intake stream with
  | nil =>
    cases reached
    have silent : (stream.moveOn fun _ => stream.run).feed = stream.feed :=
      LogFeed.display.feed_moveOn_of_silent rfl
    exact ⟨same.1, same.2.1, same.2.2.trans silent.symm⟩
  | cons move rest ih =>
    obtain ⟨run, idle, feed⟩ := same
    obtain ⟨next, performed, later⟩ := Option.bind_eq_some_iff.mp reached
    obtain ⟨run', idle', feed'⟩ := announce_perform idle (run ▸ performed)
    rw [feed, run] at feed'
    have whole := ih (stream.moveOn fun _ => next) ⟨run', idle', feed'⟩ later
    have joined : Live.moveOn LogFeed.display.react (fun _ => last) (stream.moveOn fun _ => next) =
        stream.moveOn fun _ => last :=
      Display.moveOn_moveOn (Run.calls_prefix_of_perform performed) (Run.calls_prefix_of_follow later)
    exact ⟨whole.1, whole.2.1, whole.2.2.trans (congrArg Live.feed joined)⟩

/-- The buffer is what the entries that came and the edits made of it, and the entries are counted. Edits are
listed latest first. -/
structure Balances (capacity : Nat) (edits : List Edit) (intake : LogIntake) : Prop where
  buffer : intake.feed.buffer = .after capacity intake.deeds
  appended : intake.deeds.filterMap (·.appended?) = intake.arrived.reverse
  edited : intake.deeds.filter (·.appended?.isNone) = edits.map Edit.call
  received : intake.feed.report.received + (if intake.isHandling then 1 else 0) = intake.arrived.length

namespace Balances
variable {edits : List Edit}

theorem start (policy : Policy) (scripts : List Script) (capacity : Nat) :
    (LogIntake.start policy scripts capacity).Balances capacity [] :=
  ⟨rfl, rfl, rfl, rfl⟩

theorem keep (known : intake.Balances capacity edits) (idle : intake.isHandling = false) {entry : LogEntry}
    (brought : callback.arrival? = some entry) (told : next.calls = intake.run.calls ++ [callback]) :
    (({ intake with run := next } : LogIntake).hear callback).Balances capacity edits := by
  have grown : ({ intake with run := next } : LogIntake).arrived = intake.arrived ++ [entry] := by
    simp [arrived, told, brought]
  have received := known.received
  rw [hear_of_arrival brought]
  constructor
  · rw [EventBuffer.after, ← known.buffer]
    rfl
  · calc (EventBuffer.Call.append entry :: intake.deeds).filterMap (·.appended?)
        = entry :: intake.arrived.reverse := congrArg (entry :: ·) known.appended
      _ = (intake.arrived ++ [entry]).reverse := by simp
      _ = _ := congrArg List.reverse grown.symm
  · exact known.edited
  · have more := congrArg List.length grown
    rw [List.length_append, ← received, idle] at more
    exact more.symm

theorem react (known : intake.Balances capacity edits) (mute : callback.arrival? = none)
    (told : next.calls = intake.run.calls ++ [callback]) :
    (({ intake with run := next } : LogIntake).hear callback).Balances capacity edits := by
  have same : ({ intake with run := next } : LogIntake).arrived = intake.arrived := by
    simp [arrived, told, mute]
  obtain ⟨buffer, count⟩ := intake.feed.react_of_no_entry mute
  rw [hear_of_no_arrival mute]
  exact {
    buffer := buffer.trans known.buffer
    appended := known.appended.trans (congrArg List.reverse same.symm)
    edited := known.edited
    received := by
      have received := known.received
      rw [← same, ← count] at received
      exact received }

theorem stream (known : intake.Balances capacity edits) (idle : intake.isHandling = false)
    (performed : intake.run.perform move = some next) : (intake.moveOn next).Balances capacity edits := by
  obtain silent | ⟨callback, told⟩ := Run.calls_of_perform performed
  · have same : ({ intake with run := next } : LogIntake).arrived = intake.arrived := by
      simp [arrived, silent]
    rw [moveOn_of_silent silent]
    exact { known with
      appended := known.appended.trans (congrArg List.reverse same.symm)
      received := known.received.trans (congrArg List.length same.symm) }
  · rw [moveOn_of_told told]
    cases brought : callback.arrival? with
    | some entry => exact known.keep idle brought told
    | none => exact known.react brought told

theorem announce (known : intake.Balances capacity edits) : intake.announce.Balances capacity edits := by
  unfold LogIntake.announce
  split
  · rename_i handling
    have received := known.received
    rw [if_pos handling] at received
    exact { known with received := received }
  · exact known

theorem adjust (known : intake.Balances capacity edits) (edit : Edit) :
    (intake.adjust edit).Balances capacity (edit :: edits) where
  buffer := by
    rw [LogIntake.adjust, EventBuffer.after, ← known.buffer]
    rfl
  appended := by
    rw [LogIntake.adjust]
    cases edit <;> exact known.appended
  edited := by
    rw [LogIntake.adjust]
    cases edit <;> exact congrArg (_ :: ·) known.edited
  received := known.received

theorem perform (known : intake.Balances capacity edits) (turn : Turn) :
    (intake.perform turn).Balances capacity (turn.edit?.toList ++ edits) := by
  cases turn with
  | announce => exact known.announce
  | edit edit => exact known.adjust edit
  | stream move =>
    unfold LogIntake.perform
    dsimp only
    split
    · exact known
    · rename_i idle
      split
      · rename_i performed
        exact known.stream (by simpa using idle) performed
      · exact known

theorem follow (known : intake.Balances capacity edits) (turns : List Turn) :
    (intake.follow turns).Balances capacity ((turns.filterMap Turn.edit?).reverse ++ edits) := by
  induction turns generalizing intake edits with
  | nil => exact known
  | cons turn rest ih =>
    have order : ((turn :: rest).filterMap Turn.edit?).reverse ++ edits =
        (rest.filterMap Turn.edit?).reverse ++ (turn.edit?.toList ++ edits) := by
      cases edited : turn.edit? <;> simp [edited]
    rw [order]
    exact ih (known.perform turn)

end Balances

/-- Of all that a stream does only the delivery of an entry reaches the buffer and the count. -/
theorem perform_stream_cases (intake : LogIntake) (move : Move) :
    (∃ payload entry, move = .drive ∧ intake.run.driver.point = .delivering payload ∧
      LogEntry.parse? payload = some entry) ∨
    (intake.perform (.stream move)).feed.buffer = intake.feed.buffer ∧
      (intake.perform (.stream move)).feed.report.received = intake.feed.report.received := by
  unfold perform
  dsimp only
  split
  · exact .inr ⟨rfl, rfl⟩
  split
  · rename_i next performed
    obtain silent | ⟨callback, told⟩ := Run.calls_of_perform performed
    · rw [moveOn_of_silent silent]
      exact .inr ⟨rfl, rfl⟩
    · cases brought : callback.arrival? with
      | none =>
        rw [moveOn_of_told told, hear_of_no_arrival brought]
        exact .inr (intake.feed.react_of_no_entry brought)
      | some entry =>
        cases callback with
        | opened | closed | reconnecting => cases brought
        | message payload =>
          obtain ⟨driven, delivering⟩ := Run.delivering_of_told performed told
          exact .inl ⟨payload, entry, driven, delivering, brought⟩
  · exact .inr ⟨rfl, rfl⟩

/-- Whatever payloads come, and however pauses, resumes and clears fall between the steps of the driver: each
entry that comes is counted once, as soon as it has been handled, and the buffer either took it or counted
it as discarded. The buffer is what these entries and the consumer's own edits, in their order, made of it. A
payload that is no entry changes nothing and publishes nothing, and nothing that a stream does but the
delivery of an entry, be it a retry, a drop or a close, changes the buffer or the count. -/
theorem received_of_turns (policy : Policy) (scripts : List Script) (capacity : Nat) (turns : List Turn) :
    let intake := (start policy scripts capacity).follow turns
    (intake.feed.report.received + (if intake.isHandling then 1 else 0) = intake.arrived.length ∧
      intake.feed.buffer.discarded + EventBuffer.accepted capacity intake.deeds = intake.arrived.length) ∧
    (intake.feed.buffer = .after capacity intake.deeds ∧
      intake.deeds.reverse.filterMap (·.appended?) = intake.arrived ∧
      intake.deeds.reverse.filter (·.appended?.isNone) = (turns.filterMap (·.edit?)).map Edit.call) ∧
    (∀ payload, intake.hear (.message payload) = intake ↔ LogEntry.parse? payload = none) ∧
    ∀ move,
      (∃ payload entry, move = .drive ∧ intake.run.driver.point = .delivering payload ∧
        LogEntry.parse? payload = some entry) ∨
      (intake.perform (.stream move)).feed.buffer = intake.feed.buffer ∧
        (intake.perform (.stream move)).feed.report.received = intake.feed.report.received := by
  intro intake
  have known : intake.Balances capacity ((turns.filterMap Turn.edit?).reverse ++ []) :=
    (Balances.start policy scripts capacity).follow turns
  refine ⟨⟨known.received, ?_⟩, ⟨known.buffer, ?_, ?_⟩, intake.hear_message_eq_self_iff,
    intake.perform_stream_cases⟩
  · rw [known.buffer, EventBuffer.discarded_add_accepted, known.appended, List.length_reverse]
  · rw [List.filterMap_reverse, known.appended, List.reverse_reverse]
  · rw [List.filter_reverse, known.edited, List.append_nil, List.map_reverse, List.reverse_reverse]

/-- The buffer is paused before the first entry is announced and cleared before the second one is, a payload
that is no entry comes in between, and the connection ends, is retried and is closed. -/
theorem received_of_turns_paused :
    let scripts : List Script := [{ outcome := .serve [.message "[\"t\",\"INFO\",\"a\"]", .message "x",
      .message "[\"t\",\"INFO\",\"b\"]"] false }]
    let turns : List Turn :=
      [.stream .drive, .stream .dial, .stream .hear, .stream .drive, .stream .drive,
        .stream .hear, .stream .drive, .edit .pause, .announce, .stream .hear, .stream .drive,
        .stream .hear, .stream .drive, .edit .clear, .announce, .stream .hear, .stream .drive,
        .stream .drive, .stream .drive, .stream .detach, .stream .conclude, .stream .signalStop, .stream .stop]
    let intake := (start {} scripts 5).follow turns
    intake.run.link.state = .closed .explicit ∧ intake.feed.report.received = 2 ∧
      intake.feed.buffer.discarded = 1 ∧ EventBuffer.accepted 5 intake.deeds = 1 ∧
      intake.feed.buffer.entries.length = 0 := by
  intro scripts turns intake
  have closed : intake.run.link.state = .closed .explicit := by decide +kernel
  have arrived : intake.arrived.length = 2 := by decide +kernel
  have idle : intake.isHandling = false := by decide +kernel
  have discarded : intake.feed.buffer.discarded = 1 := by decide +kernel
  have cleared : intake.feed.buffer.entries.length = 0 := by decide +kernel
  have reached : (start {} scripts 5).follow turns = intake := rfl
  obtain ⟨⟨received, sum⟩, -⟩ := received_of_turns {} scripts 5 turns
  rw [reached] at received sum
  clear_value intake
  rw [idle, arrived] at received
  exact ⟨closed, received, discarded, by omega, cleared⟩

end LogIntake
end Stream
end ProxyWatch
