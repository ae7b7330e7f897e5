import ProxyWatch.Cli.Follow
import ProxyWatch.Proofs.Stream.Intake

/-! The log as it is printed while the driver goes on.

The driver first puts an entry into the buffer and then announces it. The loop first counts what has been
announced and then copies the buffer. What comes between the two moves the copy away from the count, so
what is printed is told from the copies that were made. -/
namespace ProxyWatch

namespace Cli
open ProxyWatch.Stream (Callback Live LogFeed Move Policy Run Script)

/-- Where the loop stands between two of its steps. -/
inductive LogLoop.Stage where
  | waiting
  | counted (before : Nat)
  | printed
  | ended
  deriving DecidableEq, Repr

/-- A copy of the buffer, made for a count, with all that had arrived by then. -/
structure LogLoop.Copy where
  counted : Nat
  arrived : List LogEntry
  deriving Repr

/-- A log stream with the loop that prints it. While an entry is handled, which has been put into the
buffer and not been announced, the driver does nothing else. Copies are listed latest first. -/
structure LogLoop where
  run : Run
  reader : LogReader
  isHandling : Bool := false
  unseen : Bool := false
  stage : LogLoop.Stage := .waiting
  lines : List String := []
  copies : List LogLoop.Copy := []

namespace LogLoop

inductive Turn where
  | stream (move : Move)
  | announce
  | count
  | copy
  | look
  | interrupt
  deriving DecidableEq, Repr

def start (policy : Policy) (scripts : List Script) (capacity : Nat) : LogLoop :=
  { run := .start policy scripts, reader := { feed := .empty capacity } }

/-- The entries that have been put into the buffer, first to last. -/
def arrived (loop : LogLoop) : List LogEntry := loop.run.calls.filterMap (·.arrival?)

/-- Takes a callback to the feed; an entry is only put into the buffer. -/
def hear (loop : LogLoop) (callback : Callback) : LogLoop :=
  match callback.arrival? with
  | some entry =>
    { loop with
      reader := { loop.reader with feed := (loop.reader.feed.keep entry).2 }
      isHandling := true }
  | none =>
    let (isPublished, feed) := loop.reader.feed.react callback
    { loop with reader := { loop.reader with feed }, unseen := loop.unseen || isPublished }

def moveOn (loop : LogLoop) (next : Run) : LogLoop :=
  (Live.callbacksSince loop.run next).foldl hear { loop with run := next }

/-- Announces the entry that is handled. -/
def announce (loop : LogLoop) : LogLoop :=
  if loop.isHandling then
    { loop with
      reader := { loop.reader with feed := loop.reader.feed.announce }
      isHandling := false
      unseen := true }
  else loop

/-- Counts what has been announced, as soon as something has been published. -/
def count (loop : LogLoop) : LogLoop :=
  if loop.stage = .waiting ∧ loop.unseen = true then
    { loop with
      reader := { loop.reader with printed := loop.reader.feed.report.received }
      unseen := false
      stage := .counted loop.reader.printed }
  else loop

/-- Copies the buffer and prints as many of its last entries as were counted anew. -/
def copy (filter : String) (loop : LogLoop) : LogLoop :=
  match loop.stage with
  | .counted before =>
    let fresh := freshEntries before loop.reader.printed loop.reader.feed.buffer.entries
    { loop with
      stage := .printed
      lines := loop.lines ++ (fresh.filter (·.isMatch filter)).map entryLine
      copies := ⟨loop.reader.printed, loop.arrived⟩ :: loop.copies }
  | _ => loop

def look (loop : LogLoop) : LogLoop :=
  if loop.stage = .printed then
    { loop with stage := if loop.run.link.state.isClosed then .ended else .waiting }
  else loop

def interrupt (loop : LogLoop) : LogLoop :=
  if loop.stage = .waiting then { loop with stage := .ended } else loop

/-- A turn that is not possible changes nothing. -/
def perform (filter : String) (loop : LogLoop) : Turn → LogLoop
  | .stream move =>
    if loop.isHandling then loop
    else
      match loop.run.perform move with
      | some next => loop.moveOn next
      | none => loop
  | .announce => loop.announce
  | .count => loop.count
  | .copy => loop.copy filter
  | .look => loop.look
  | .interrupt => loop.interrupt

def follow (filter : String) (loop : LogLoop) (turns : List Turn) : LogLoop :=
  turns.foldl (perform filter) loop

/-- How many entries had been counted when the buffer was last copied. -/
def countedBy : List Copy → Nat
  | [] => 0
  | copy :: _ => copy.counted

/-- The entries that come of the copies: as many of the last ones in the buffer as were counted anew. -/
def shownBy (room : Nat) : List Copy → List LogEntry
  | [] => []
  | copy :: earlier =>
    shownBy room earlier ++ (copy.arrived.rtake room).rtake (copy.counted - countedBy earlier)

/-- The same, if the entries that follow those counted before were displaced by what was not counted. -/
def shiftedBy (entries : List LogEntry) : List Copy → List LogEntry
  | [] => []
  | copy :: earlier =>
    shiftedBy entries earlier ++
      (entries.drop (countedBy earlier + (copy.arrived.length - copy.counted))).take
        (copy.counted - countedBy earlier)

/-- Counts never go back, and nothing is counted that has not arrived. -/
def IsConsecutive : List Copy → Prop
  | [] => True
  | copy :: earlier =>
    countedBy earlier ≤ copy.counted ∧ copy.counted ≤ copy.arrived.length ∧ IsConsecutive earlier

/-- No entry left the buffer before it was read. -/
def IsComplete (room : Nat) : List Copy → Prop
  | [] => True
  | copy :: earlier => copy.arrived.length - countedBy earlier ≤ room ∧ IsComplete room earlier

instance (room : Nat) : (copies : List Copy) → Decidable (IsComplete room copies)
  | [] => .isTrue trivial
  | copy :: earlier =>
    have : Decidable (IsComplete room earlier) := instDecidableIsComplete room earlier
    inferInstanceAs (Decidable (copy.arrived.length - countedBy earlier ≤ room ∧ IsComplete room earlier))

/-- Nothing had arrived that was not counted, whenever the buffer was copied. -/
def IsCurrent (copies : List Copy) : Prop := ∀ copy ∈ copies, copy.counted = copy.arrived.length

instance (copies : List Copy) : Decidable (IsCurrent copies) :=
  inferInstanceAs (Decidable (∀ copy ∈ copies, copy.counted = copy.arrived.length))

/-- The calls that put entries into a buffer, latest first. -/
def appends (entries : List LogEntry) : List EventBuffer.Call := entries.reverse.map .append

/-- How many entries had been counted before the copy that is due, or else is made. -/
def settled (loop : LogLoop) : Nat :=
  match loop.stage with
  | .counted before => before
  | _ => loop.reader.printed

theorem follow_append (filter : String) (loop : LogLoop) (first second : List Turn) :
    loop.follow filter (first ++ second) = (loop.follow filter first).follow filter second :=
  List.foldl_append

variable {filter : String} {room capacity : Nat} {loop : LogLoop} {next : Run} {move : Move}
  {entries : List LogEntry} {copies : List Copy}

theorem appends_concat (entries : List LogEntry) (entry : LogEntry) :
    appends (entries ++ [entry]) = .append entry :: appends entries := by
  simp [appends]

private theorem isPausedAfter_appends (entries : List LogEntry) :
    EventBuffer.isPausedAfter (appends entries) = false := by
  induction entries using List.reverseRecOn with
  | nil => rfl
  | append_singleton entries entry ih => rwa [appends_concat]

private theorem taken_appends (entries : List LogEntry) : EventBuffer.taken (appends entries) = entries := by
  induction entries using List.reverseRecOn with
  | nil => rfl
  | append_singleton entries entry ih =>
    simp [appends_concat, EventBuffer.taken, isPausedAfter_appends, ih]

theorem moveOn_of_silent (silent : next.calls = loop.run.calls) :
    loop.moveOn next = { loop with run := next } := by
  rw [moveOn, Live.callbacksSince_of_silent silent]
  rfl

theorem moveOn_of_told {callback : Callback} (told : next.calls = loop.run.calls ++ [callback]) :
    loop.moveOn next = ({ loop with run := next } : LogLoop).hear callback := by
  rw [moveOn, Live.callbacksSince_eq told]
  rfl

theorem feed_announce_hear (idle : loop.isHandling = false) (callback : Callback) :
    (loop.hear callback).announce.reader.feed = (loop.reader.feed.react callback).2 := by
  cases callback with
  | message payload =>
    cases read : LogEntry.parse? payload with
    | none => simp [hear, announce, Callback.arrival?, LogFeed.react, LogFeed.handle, read, idle]
    | some entry => simp [hear, announce, Callback.arrival?, LogFeed.react, LogFeed.handle, read]
  | opened | closed | reconnecting => simp [hear, announce, Callback.arrival?, idle]

/-- A buffer that is copied at once shows what the reader of a log presents. -/
theorem copy_count (filter : String) (waiting : loop.stage = .waiting) (unseen : loop.unseen = true) :
    (loop.count.copy filter).lines = loop.lines ++ ((logConsumer filter).present loop.reader).1 ∧
      (loop.count.copy filter).reader = ((logConsumer filter).present loop.reader).2 := by
  simp [count, copy, logConsumer, waiting, unseen]

/-- What the counts, the buffer and the lines have to do with the entries that arrived. -/
structure Accounts (filter : String) (capacity : Nat) (loop : LogLoop) : Prop where
  buffer : EventBuffer.Retains capacity (appends loop.arrived) loop.reader.feed.buffer
  received : loop.reader.feed.report.received + (if loop.isHandling then 1 else 0) = loop.arrived.length
  printed : loop.reader.printed ≤ loop.reader.feed.report.received
  seen : loop.unseen = false → loop.reader.printed = loop.reader.feed.report.received
  settled : loop.settled = countedBy loop.copies
  unsettled : loop.settled ≤ loop.reader.printed
  consecutive : IsConsecutive loop.copies
  copied : ∀ copy ∈ loop.copies, copy.arrived <+: loop.arrived
  lines : loop.lines =
    ((shownBy (max 1 capacity) loop.copies).filter (·.isMatch filter)).map entryLine

namespace Accounts

theorem start (filter : String) (policy : Policy) (scripts : List Script) (capacity : Nat) :
    (LogLoop.start policy scripts capacity).Accounts filter capacity where
  buffer := EventBuffer.Retains.start capacity
  received := rfl
  printed := Nat.le_refl 0
  seen _ := rfl
  settled := rfl
  unsettled := Nat.le_refl 0
  consecutive := trivial
  copied := by simp [LogLoop.start]
  lines := rfl

theorem keep (known : loop.Accounts filter capacity) (idle : loop.isHandling = false) {callback : Callback}
    {entry : LogEntry} (brought : callback.arrival? = some entry)
    (told : next.calls = loop.run.calls ++ [callback]) :
    (({ loop with run := next } : LogLoop).hear callback).Accounts filter capacity := by
  have grown : ({ loop with run := next } : LogLoop).arrived = loop.arrived ++ [entry] := by
    simp [arrived, told, brought]
  have received := known.received
  simp only [hear, brought]
  exact { known with
    buffer := by
      have kept := known.buffer.perform (.append entry)
      rw [← appends_concat] at kept
      exact grown ▸ kept
    received := by
      have more := congrArg List.length grown
      rw [List.length_append, ← received, idle] at more
      exact more.symm
    copied := fun copy member => (known.copied copy member).trans (grown ▸ List.prefix_append _ _) }

theorem react (known : loop.Accounts filter capacity) {callback : Callback}
    (mute : callback.arrival? = none) (told : next.calls = loop.run.calls ++ [callback]) :
    (({ loop with run := next } : LogLoop).hear callback).Accounts filter capacity := by
  have same : ({ loop with run := next } : LogLoop).arrived = loop.arrived := by
    simp [arrived, told, mute]
  obtain ⟨buffer, count⟩ := loop.reader.feed.react_of_no_entry mute
  simp only [hear, mute]
  exact { known with
    buffer := by
      have kept := known.buffer
      rw [← same, ← buffer] at kept
      exact kept
    received := by
      have received := known.received
      rw [← same, ← count] at received
      exact received
    printed := count.symm ▸ known.printed
    seen := fun seen => count.symm ▸ known.seen (Bool.or_eq_false_iff.mp seen).1
    copied := fun copy member => same.symm ▸ known.copied copy member }

theorem stream (known : loop.Accounts filter capacity) (idle : loop.isHandling = false)
    (performed : loop.run.perform move = some next) : (loop.moveOn next).Accounts filter capacity := by
  obtain silent | ⟨callback, told⟩ := Run.calls_of_perform performed
  · have same : ({ loop with run := next } : LogLoop).arrived = loop.arrived := by
      simp [arrived, silent]
    rw [moveOn_of_silent silent]
    exact { known with
      buffer := same.symm ▸ known.buffer
      received := same.symm ▸ known.received
      copied := fun copy member => same.symm ▸ known.copied copy member }
  · rw [moveOn_of_told told]
    cases brought : callback.arrival? with
    | some entry => exact known.keep idle brought told
    | none => exact known.react brought told

theorem announce (known : loop.Accounts filter capacity) : loop.announce.Accounts filter capacity := by
  unfold LogLoop.announce
  split
  · rename_i handling
    have received := known.received
    rw [if_pos handling] at received
    exact { known with
      received := received
      printed := Nat.le_succ_of_le known.printed
      seen := fun seen => by cases seen }
  · exact known

theorem count (known : loop.Accounts filter capacity) : loop.count.Accounts filter capacity := by
  unfold LogLoop.count
  split
  · rename_i due
    have settled : loop.settled = loop.reader.printed := by
      simp [LogLoop.settled, due.1]
    exact { known with
      printed := Nat.le_refl _
      seen := fun _ => rfl
      settled := settled.symm.trans known.settled
      unsettled := known.printed }
  · exact known

theorem copy (known : loop.Accounts filter capacity) : (loop.copy filter).Accounts filter capacity := by
  unfold LogLoop.copy
  split
  · rename_i before due
    have settled : before = countedBy loop.copies := by
      simpa [LogLoop.settled, due] using known.settled
    have unsettled : before ≤ loop.reader.printed := by
      simpa [LogLoop.settled, due] using known.unsettled
    have fresh : freshEntries before loop.reader.printed loop.reader.feed.buffer.entries =
        (loop.arrived.rtake (max 1 capacity)).rtake (loop.reader.printed - countedBy loop.copies) := by
      rw [known.buffer.entries, taken_appends, ← settled]
      rfl
    have received := known.received
    have printed := known.printed
    exact { known with
      settled := rfl
      unsettled := Nat.le_refl _
      consecutive := ⟨settled ▸ unsettled, by dsimp only; omega, known.consecutive⟩
      copied := by
        intro copy member
        obtain rfl | earlier := List.mem_cons.mp member
        · exact List.prefix_rfl
        · exact known.copied copy earlier
      lines := by
        dsimp only
        rw [known.lines, fresh]
        simp [shownBy] }
  · exact known

theorem pass (known : loop.Accounts filter capacity) {stage : Stage}
    (same : ({ loop with stage } : LogLoop).settled = loop.settled) :
    ({ loop with stage } : LogLoop).Accounts filter capacity :=
  { known with
    settled := same.trans known.settled
    unsettled := same.le.trans known.unsettled }

theorem look (known : loop.Accounts filter capacity) : loop.look.Accounts filter capacity := by
  unfold LogLoop.look
  split
  · rename_i printed
    refine known.pass ?_
    split <;> simp [LogLoop.settled, printed]
  · exact known

theorem interrupt (known : loop.Accounts filter capacity) : loop.interrupt.Accounts filter capacity := by
  unfold LogLoop.interrupt
  split
  · rename_i waiting
    exact known.pass (by simp [LogLoop.settled, waiting])
  · exact known

theorem perform (known : loop.Accounts filter capacity) (turn : Turn) :
    (loop.perform filter turn).Accounts filter capacity := by
  cases turn with
  | announce => exact known.announce
  | count => exact known.count
  | copy => exact known.copy
  | look => exact known.look
  | interrupt => exact known.interrupt
  | stream move =>
    unfold LogLoop.perform
    dsimp only
    split
    · exact known
    · rename_i idle
      split
      · rename_i performed
        exact known.stream (by simpa using idle) performed
      · exact known

theorem follow (known : loop.Accounts filter capacity) (turns : List Turn) :
    (loop.follow filter turns).Accounts filter capacity := by
  induction turns generalizing loop with
  | nil => exact known
  | cons turn rest ih => exact ih (known.perform turn)

end Accounts

/-- With no entry lost from the buffer a copy shows as many entries as were counted for it, but from as
many entries further on as had arrived and were not counted. -/
theorem rtake_of_complete {arrived : List LogEntry} {before counted : Nat}
    (earlier : arrived <+: entries) (complete : arrived.length - before ≤ room)
    (forward : before ≤ counted) (behind : counted ≤ arrived.length) :
    (arrived.rtake room).rtake (counted - before) =
      (entries.drop (before + (arrived.length - counted))).take (counted - before) := by
  have bound := earlier.length_le
  have begins : arrived.length - room + (arrived.length - (arrived.length - room) - (counted - before)) =
      before + (arrived.length - counted) := by omega
  have lasts : arrived.length - (before + (arrived.length - counted)) = counted - before := by omega
  have first : arrived = entries.take arrived.length := List.prefix_iff_eq_take.mp earlier
  calc (arrived.rtake room).rtake (counted - before)
      = arrived.drop (before + (arrived.length - counted)) := by
        rw [List.rtake, List.rtake, List.length_drop, List.drop_drop, begins]
    _ = (entries.take arrived.length).drop (before + (arrived.length - counted)) := by rw [← first]
    _ = (entries.drop (before + (arrived.length - counted))).take (counted - before) := by
        rw [List.drop_take, lasts]

theorem shownBy_of_complete (complete : IsComplete room copies) (consecutive : IsConsecutive copies)
    (copied : ∀ copy ∈ copies, copy.arrived <+: entries) :
    shownBy room copies = shiftedBy entries copies := by
  induction copies with
  | nil => rfl
  | cons copy earlier ih =>
    obtain ⟨forward, behind, rest⟩ := consecutive
    have before := ih complete.2 rest fun copy member => copied copy (List.mem_cons_of_mem _ member)
    rw [shownBy, shiftedBy, before,
      rtake_of_complete (copied copy List.mem_cons_self) complete.1 forward behind]

/-- Copies that show nothing but what was counted show every entry once, in order. -/
theorem shiftedBy_of_current (current : IsCurrent copies) (consecutive : IsConsecutive copies) :
    shiftedBy entries copies = entries.take (countedBy copies) := by
  induction copies with
  | nil => rfl
  | cons copy earlier ih =>
    have last : countedBy earlier + (copy.counted - countedBy earlier) = copy.counted :=
      Nat.add_sub_cancel' consecutive.1
    have before := ih (fun copy member => current copy (List.mem_cons_of_mem _ member)) consecutive.2.2
    rw [shiftedBy, before, ← current copy List.mem_cons_self, Nat.sub_self, Nat.add_zero,
      ← List.take_add, last, countedBy]

/-- What the stream and the loop do, if nothing comes between an entry's two steps, or between a count and its
copy. -/
inductive Round where
  | stream (move : Move)
  | read
  | interrupt

def Round.turns : Round → List Turn
  | .stream move => [.stream move, .announce]
  | .read => [.count, .copy, .look]
  | .interrupt => [.interrupt]

/-- Between two rounds no entry is handled and no copy is due. -/
structure IsSettled (loop : LogLoop) : Prop where
  idle : loop.isHandling = false
  copied : ∀ before, loop.stage ≠ .counted before
  current : IsCurrent loop.copies

private theorem moveOn_frame (loop : LogLoop) (next : Run) :
    (loop.moveOn next).stage = loop.stage ∧ (loop.moveOn next).copies = loop.copies := by
  have told (callbacks : List Callback) : ∀ loop : LogLoop,
      (callbacks.foldl hear loop).stage = loop.stage ∧ (callbacks.foldl hear loop).copies = loop.copies := by
    induction callbacks with
    | nil => exact fun _ => ⟨rfl, rfl⟩
    | cons callback rest ih =>
      intro loop
      obtain ⟨stage, copies⟩ := ih (loop.hear callback)
      have heard : (loop.hear callback).stage = loop.stage ∧ (loop.hear callback).copies = loop.copies := by
        unfold hear
        split <;> exact ⟨rfl, rfl⟩
      exact ⟨stage.trans heard.1, copies.trans heard.2⟩
  exact told _ _

private theorem announce_frame (loop : LogLoop) :
    loop.announce.isHandling = false ∧ loop.announce.stage = loop.stage ∧
      loop.announce.copies = loop.copies := by
  unfold announce
  split
  · exact ⟨rfl, rfl, rfl⟩
  · rename_i idle
    exact ⟨by simpa using idle, rfl, rfl⟩

namespace IsSettled

theorem stream (settled : loop.IsSettled) (move : Move) :
    (loop.follow filter (Round.stream move).turns).IsSettled := by
  have moved : (loop.perform filter (.stream move)).stage = loop.stage ∧
      (loop.perform filter (.stream move)).copies = loop.copies := by
    simp only [perform, settled.idle, Bool.false_eq_true, if_false]
    split
    · exact moveOn_frame loop _
    · exact ⟨rfl, rfl⟩
  obtain ⟨idle, stage, copies⟩ := announce_frame (loop.perform filter (.stream move))
  exact {
    idle
    copied := fun before due => settled.copied before (moved.1.symm.trans (stage.symm.trans due))
    current := (copies.trans moved.2).symm ▸ settled.current }

theorem look (settled : loop.IsSettled) : loop.look.IsSettled := by
  unfold LogLoop.look
  split
  · exact { settled with copied := fun before due => by split at due <;> cases due }
  · exact settled

/-- What is copied at once is what was counted. -/
theorem copy (settled : loop.IsSettled) (known : loop.Accounts filter capacity) :
    (loop.count.copy filter).IsSettled := by
  unfold count
  split
  · have all : loop.reader.feed.report.received = loop.arrived.length := by
      have received := known.received
      rwa [settled.idle] at received
    exact {
      idle := settled.idle
      copied := fun before due => by cases due
      current := List.forall_mem_cons.mpr ⟨all, settled.current⟩ }
  · unfold LogLoop.copy
    split
    · rename_i before due
      exact absurd due (settled.copied before)
    · exact settled

theorem interrupt (settled : loop.IsSettled) : loop.interrupt.IsSettled := by
  unfold LogLoop.interrupt
  split
  · exact { settled with copied := fun before due => by cases due }
  · exact settled

theorem round (settled : loop.IsSettled) (known : loop.Accounts filter capacity) (round : Round) :
    (loop.follow filter round.turns).IsSettled := by
  cases round with
  | stream move => exact settled.stream move
  | read => exact (settled.copy known).look
  | interrupt => exact settled.interrupt

theorem rounds (settled : loop.IsSettled) (known : loop.Accounts filter capacity) (rounds : List Round) :
    (loop.follow filter (rounds.flatMap Round.turns)).IsSettled := by
  induction rounds generalizing loop with
  | nil => exact settled
  | cons first rest ih =>
    rw [List.flatMap_cons, follow_append]
    exact ih (settled.round known first) (known.follow first.turns)

end IsSettled

/-- If nothing comes between, every entry counted is printed once, in order, as long as none leaves the buffer
before it is read. -/
theorem lines_of_rounds (policy : Policy) (scripts : List Script) (capacity : Nat) (filter : String)
    (rounds : List Round) :
    let loop := (start policy scripts capacity).follow filter (rounds.flatMap Round.turns)
    IsComplete (max 1 capacity) loop.copies →
      loop.lines =
        ((loop.arrived.take (countedBy loop.copies)).filter (·.isMatch filter)).map entryLine := by
  intro loop complete
  have known := Accounts.start filter policy scripts capacity
  have opened : (start policy scripts capacity).IsSettled :=
    ⟨rfl, by simp [start], by simp [IsCurrent, start]⟩
  have settled : loop.IsSettled := opened.rounds known rounds
  have counted := known.follow (rounds.flatMap Round.turns)
  rw [counted.lines, shownBy_of_complete complete counted.consecutive counted.copied,
    shiftedBy_of_current settled.current counted.consecutive]

/-- What is printed of a log, in any interleaving of the stream with the loop. The count never falls behind
what has been printed, and a loop with nothing left to see has counted all that arrived. Each copy of the
buffer shows the last of the entries that had arrived, as many as were counted anew. If no entry left
the buffer before it was read, these are displaced by the entries that had arrived and were not counted;
and if there were none of those, every entry that was counted is printed once, in order. -/
theorem lines_of_turns (policy : Policy) (scripts : List Script) (capacity : Nat) (filter : String)
    (turns : List Turn) :
    let loop := (start policy scripts capacity).follow filter turns
    let room := max 1 capacity
    let shown (entries : List LogEntry) : List String :=
      (entries.filter (·.isMatch filter)).map entryLine
    (loop.reader.printed ≤ loop.reader.feed.report.received ∧
      loop.reader.feed.report.received ≤ loop.arrived.length) ∧
    (loop.stage = .waiting → loop.unseen = false → loop.isHandling = false →
      countedBy loop.copies = loop.arrived.length) ∧
    (IsConsecutive loop.copies ∧ ∀ copy ∈ loop.copies, copy.arrived <+: loop.arrived) ∧
    loop.lines = shown (shownBy room loop.copies) ∧
    (IsComplete room loop.copies → loop.lines = shown (shiftedBy loop.arrived loop.copies)) ∧
    (IsComplete room loop.copies → IsCurrent loop.copies →
      loop.lines = shown (loop.arrived.take (countedBy loop.copies))) := by
  intro loop room shown
  have known : loop.Accounts filter capacity :=
    (Accounts.start filter policy scripts capacity).follow turns
  have received := known.received
  have shifted (complete : IsComplete room loop.copies) :
      loop.lines = shown (shiftedBy loop.arrived loop.copies) :=
    known.lines.trans (congrArg shown (shownBy_of_complete complete known.consecutive known.copied))
  refine ⟨⟨known.printed, by omega⟩, ?_, ⟨known.consecutive, known.copied⟩, known.lines, shifted,
    ?_⟩
  · intro waiting seen idle
    have settled : loop.settled = loop.reader.printed := by simp [settled, waiting]
    rw [idle] at received
    exact (known.settled.symm.trans settled).trans ((known.seen seen).trans received)
  · intro complete current
    rw [shifted complete, shiftedBy_of_current current known.consecutive]

/-- Two entries, each counted and copied before the next one comes. -/
theorem lines_of_turns_current :
    let scripts : List Script := [{ outcome := .serve [.message "[\"t\",\"INFO\",\"a\"]",
      .message "[\"t\",\"INFO\",\"b\"]"] true }]
    let turns : List Turn :=
      [.stream .drive, .stream .dial, .stream .hear, .stream .drive, .stream .drive, .count, .copy, .look,
        .stream .hear, .stream .drive, .announce, .count, .copy, .look,
        .stream .hear, .stream .drive, .announce, .count, .copy, .look]
    let loop := (start {} scripts 1).follow "" turns
    IsComplete 1 loop.copies ∧ IsCurrent loop.copies ∧ loop.lines = ["t  INFO a", "t  INFO b"] := by
  refine ⟨by decide +kernel, by decide +kernel, ?_⟩
  refine ((lines_of_turns {} _ 1 "" _).2.2.2.2.2 (by decide +kernel) (by decide +kernel)).trans ?_
  decide +kernel

/-- Two entries that the loop does not print once each. In the first run the loop has counted the first of
them when the second is put into the buffer, so the second is printed for it, and once more when it is
counted itself. In the second run the only entry comes, and the stream gives up, after the buffer has been
copied for the opened connection and before the state is looked at. -/
theorem entry_printed_twice_or_never :
    let first := "[\"t\",\"INFO\",\"a\"]"
    let second := "[\"t\",\"INFO\",\"b\"]"
    let opening : List Turn :=
      [.stream .drive, .stream .dial, .stream .hear, .stream .drive, .stream .drive]
    let twice := (start {} [{ outcome := .serve [.message first, .message second] true }] 1000).follow ""
      (opening ++ [.stream .hear, .stream .drive, .announce, .count, .stream .hear, .stream .drive, .copy,
        .look, .announce, .count, .copy, .look])
    let never := (start ⟨3000, 0⟩ [{ outcome := .serve [.message first] false }] 1000).follow ""
      (opening ++ [.count, .copy, .stream .hear, .stream .drive, .announce, .stream .hear, .stream .drive,
        .stream .drive, .stream .drive, .look])
    (twice.arrived.map entryLine = ["t  INFO a", "t  INFO b"] ∧
      twice.lines = ["t  INFO b", "t  INFO b"] ∧
      IsComplete 1000 twice.copies ∧ twice.stage = .waiting ∧ twice.unseen = false) ∧
    (never.arrived.map entryLine = ["t  INFO a"] ∧ never.lines = [] ∧
      IsComplete 1000 never.copies ∧ never.stage = .ended ∧ never.run.driver.point = .finished) := by
  decide +kernel

end LogLoop
end Cli
end ProxyWatch
