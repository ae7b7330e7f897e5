import ProxyWatch.Proofs.Stream.Interleaving

/-! What a stream that is never closed calls back.

The callbacks are told from the policy and from what comes of the connects. Only the connects made so
far matter, so that endless sequences of outcomes are covered by their beginnings. -/
namespace ProxyWatch.Stream

/-- The payloads that an open connection delivers before its first failure. -/
def delivered : List Event → List String
  | [] => []
  | .message payload :: rest => payload :: delivered rest
  | .wait _ :: rest => delivered rest
  | .fail _ :: _ => []

/-- How an open connection ends, if it does. -/
def ending? (hold : Bool) : List Event → Option CloseReason
  | [] => if hold then none else some .remote
  | .message _ :: rest => ending? hold rest
  | .wait _ :: rest => ending? hold rest
  | .fail error :: _ => some (.transport error.message)

def Callback.isRetry : Callback → Bool
  | .reconnecting _ => true
  | _ => false

/-- How many retries have been announced since a connection was last opened. -/
def retriesSinceOpen (calls : List Callback) : Nat :=
  (calls.reverse.takeWhile (· ≠ .opened)).countP Callback.isRetry

/-- What is called back until the next connect, or for good if the story is over. -/
structure Story where
  calls : List Callback := []
  isOver : Bool := false
  deriving DecidableEq, Repr

namespace Story

/-- A failed connect or a lost connection is followed by the next retry while the budget lasts. -/
def retry (policy : Policy) (calls : List Callback) : Story :=
  let attempt := retriesSinceOpen calls + 1
  if attempt ≤ policy.maxAttempts then ⟨calls ++ [.reconnecting attempt], false⟩
  else ⟨calls ++ [.closed (.exhausted policy.maxAttempts)], true⟩

/-- An open connection delivers its payloads, and may end then. -/
def serve (policy : Policy) (calls : List Callback) (events : List Event) (hold : Bool) : Story :=
  let calls := calls ++ (delivered events).map .message
  match ending? hold events with
  | none => ⟨calls, true⟩
  | some reason => retry policy (calls ++ [.closed reason])

/-- The story with one more connect. -/
def connect (policy : Policy) (story : Story) (outcome : Outcome) : Story :=
  if story.isOver then story
  else
    match outcome with
    | .refuse _ => retry policy story.calls
    | .serve events hold => serve policy (story.calls ++ [.opened]) events hold

def ofOutcomes (policy : Policy) (outcomes : List Outcome) : Story :=
  outcomes.foldl (connect policy) {}

end Story

/-- What comes of a connect. Connects beyond the last script are refused. -/
def outcomeAt (scripts : List Script) (n : Nat) : Outcome :=
  (Run.nextScript (scripts.drop n)).1.outcome

/-- What comes of the first connects. -/
def outcomes (scripts : List Script) (n : Nat) : List Outcome := (List.range n).map (outcomeAt scripts)

/-- The story of the first connects. -/
def storyOf (policy : Policy) (scripts : List Script) (n : Nat) : Story :=
  Story.ofOutcomes policy (outcomes scripts n)

@[simp] theorem retriesSinceOpen_opened (calls : List Callback) :
    retriesSinceOpen (calls ++ [.opened]) = 0 := by
  simp [retriesSinceOpen]

@[simp] theorem retriesSinceOpen_message (calls : List Callback) (payload : String) :
    retriesSinceOpen (calls ++ [.message payload]) = retriesSinceOpen calls := by
  simp [retriesSinceOpen, Callback.isRetry]

@[simp] theorem retriesSinceOpen_closed (calls : List Callback) (reason : CloseReason) :
    retriesSinceOpen (calls ++ [.closed reason]) = retriesSinceOpen calls := by
  simp [retriesSinceOpen, Callback.isRetry]

@[simp] theorem retriesSinceOpen_reconnecting (calls : List Callback) (attempt : Nat) :
    retriesSinceOpen (calls ++ [.reconnecting attempt]) = retriesSinceOpen calls + 1 := by
  simp [retriesSinceOpen, List.countP_cons, Callback.isRetry]

private theorem Story.retry_left {policy : Policy} {calls : List Callback}
    (left : retriesSinceOpen calls < policy.maxAttempts) :
    Story.retry policy calls = ⟨calls ++ [.reconnecting (retriesSinceOpen calls + 1)], false⟩ :=
  if_pos left

private theorem Story.retry_spent {policy : Policy} {calls : List Callback}
    (spent : policy.maxAttempts ≤ retriesSinceOpen calls) :
    Story.retry policy calls = ⟨calls ++ [.closed (.exhausted policy.maxAttempts)], true⟩ :=
  if_neg (Nat.not_le_of_gt (Nat.lt_succ_of_le spent))

theorem storyOf_succ (policy : Policy) (scripts : List Script) (n : Nat) :
    storyOf policy scripts (n + 1) = (storyOf policy scripts n).connect policy (outcomeAt scripts n) := by
  simp [storyOf, Story.ofOutcomes, outcomes, List.range_succ]

theorem storyOf_of_isOver {policy : Policy} {scripts : List Script} {n m : Nat}
    (isOver : (storyOf policy scripts n).isOver = true) (later : n ≤ m) :
    storyOf policy scripts m = storyOf policy scripts n := by
  induction later with
  | refl => rfl
  | step _ ih => simp [storyOf_succ, ih, Story.connect, isOver]

/-- Where a run that is not closed stands, and the story that it comes to when the connect under way
has been dealt with. -/
inductive Foretells (policy : Policy) : Driver → Outlook → List Callback → Story → Prop where
  | starting (retried : .opened ∈ calls → 0 < retriesSinceOpen calls) :
      Foretells policy ⟨.starting, ⟨policy, retriesSinceOpen calls⟩⟩ .idle calls ⟨calls, false⟩
  | undialled (retried : .opened ∈ calls → 0 < retriesSinceOpen calls) :
      Foretells policy ⟨.connecting false, ⟨policy, retriesSinceOpen calls⟩⟩ .idle calls ⟨calls, false⟩
  | dialled (due : Nat) (outcome : Outcome) :
      Foretells policy ⟨.connecting true, ⟨policy, retriesSinceOpen calls⟩⟩ (.connects due outcome) calls
        (Story.connect policy ⟨calls, false⟩ outcome)
  | accepted (retries since : Nat) (events : List Event) (hold : Bool) :
      Foretells policy ⟨.accepted, ⟨policy, retries⟩⟩ (.serves since events hold) calls
        (Story.serve policy (calls ++ [.opened]) events hold)
  | greeting (since : Nat) (events : List Event) (hold : Bool) :
      Foretells policy ⟨.greeting, ⟨policy, 0⟩⟩ (.serves since events hold) calls
        (Story.serve policy (calls ++ [.opened]) events hold)
  | reading (since : Nat) (events : List Event) (hold : Bool) (fresh : retriesSinceOpen calls = 0) :
      Foretells policy ⟨.reading, ⟨policy, 0⟩⟩ (.serves since events hold) calls
        (Story.serve policy calls events hold)
  | delivering (payload : String) (since : Nat) (events : List Event) (hold : Bool)
      (fresh : retriesSinceOpen calls = 0) :
      Foretells policy ⟨.delivering payload, ⟨policy, 0⟩⟩ (.serves since events hold) calls
        (Story.serve policy (calls ++ [.message payload]) events hold)
  | dropping (reason : CloseReason) (passing : reason.isTerminal = false)
      (fresh : retriesSinceOpen calls = 0) :
      Foretells policy ⟨.dropping reason, ⟨policy, 0⟩⟩ .idle calls
        (Story.retry policy (calls ++ [.closed reason]))
  | lost :
      Foretells policy ⟨.lost, ⟨policy, retriesSinceOpen calls⟩⟩ .idle calls (Story.retry policy calls)
  | retrying :
      Foretells policy ⟨.retrying (retriesSinceOpen calls + 1) policy.interval,
          ⟨policy, retriesSinceOpen calls + 1⟩⟩ .idle calls
        ⟨calls ++ [.reconnecting (retriesSinceOpen calls + 1)], false⟩
  | waiting (delay due : Nat) (retried : .opened ∈ calls → 0 < retriesSinceOpen calls) :
      Foretells policy ⟨.waiting delay, ⟨policy, retriesSinceOpen calls⟩⟩ (.wakes due) calls ⟨calls, false⟩
  | abandoning (retries : Nat) :
      Foretells policy ⟨.abandoning policy.maxAttempts, ⟨policy, retries⟩⟩ .idle calls
        ⟨calls ++ [.closed (.exhausted policy.maxAttempts)], true⟩
  | finished (reconnector : Reconnector) (outlook : Outlook) :
      Foretells policy ⟨.finished, reconnector⟩ outlook calls ⟨calls, true⟩

/-- A step of the driver's own makes the callbacks that were foretold. -/
theorem Foretells.advance {policy : Policy} {driver : Driver} {outlook : Outlook} {link : Link}
    (course : Foretells policy driver outlook calls story)
    (within : driver.IsWithin) (attached : link.attached = true) (busy : driver.isWaiting = false)
    (now : Nat) :
    Foretells policy (driver.advance link).1
      (match (driver.advance link).1.point with
        | .waiting delay => .wakes (now + delay)
        | _ => outlook)
      (calls ++ (driver.advance link).2.2) story := by
  cases course with
  | undialled | dialled | reading | waiting | finished => cases busy
  | starting retried => simpa [Driver.advance] using Foretells.undialled retried
  | accepted retries since events hold =>
    simpa [Driver.advance, Reconnector.opened] using Foretells.greeting since events hold
  | greeting since events hold =>
    simpa [Driver.advance, Driver.tell, attached] using
      Foretells.reading since events hold (retriesSinceOpen_opened calls)
  | delivering payload since events hold fresh =>
    simpa [Driver.advance, Driver.tell, attached] using
      Foretells.reading since events hold ((retriesSinceOpen_message calls payload).trans fresh)
  | dropping reason passing fresh =>
    have lost := @Foretells.lost policy (calls ++ [.closed reason])
    simpa [Driver.advance, Driver.tell, attached, fresh] using lost
  | lost =>
    have within : retriesSinceOpen calls ≤ policy.maxAttempts := within
    by_cases spent : policy.maxAttempts ≤ retriesSinceOpen calls
    · have all : retriesSinceOpen calls = policy.maxAttempts := Nat.le_antisymm within spent
      rw [Story.retry_spent spent]
      simpa [Driver.advance, Reconnector.failed, all] using Foretells.abandoning policy.maxAttempts
    · rw [Story.retry_left (Nat.lt_of_not_le spent)]
      simpa [Driver.advance, Reconnector.failed, spent] using Foretells.retrying
  | retrying =>
    have slept := @Foretells.waiting policy
      (calls ++ [.reconnecting (retriesSinceOpen calls + 1)]) policy.interval (now + policy.interval)
      (by simp)
    simpa [Driver.advance, Driver.tell, attached] using slept
  | abandoning retries =>
    simpa [Driver.advance, Driver.tell, attached] using Foretells.finished ⟨policy, retries⟩ .idle

/-- An open connection goes on with its next payload, or ends. -/
theorem serve_of_nextEvent {events : List Event}
    (heard : Run.nextEvent since hold events = some (due, signal, outlook)) :
    (∃ payload later rest, signal = .message payload ∧ outlook = .serves later rest hold ∧
      rest.length < events.length ∧ ∀ policy calls, Story.serve policy calls events hold =
        Story.serve policy (calls ++ [.message payload]) rest hold) ∨
    (∃ reason, (signal = .ended ∧ reason = .remote ∨
        ∃ error, signal = .failed error ∧ reason = .transport error.message) ∧ outlook = .idle ∧
      ∀ policy calls, Story.serve policy calls events hold =
        Story.retry policy (calls ++ [.closed reason])) := by
  induction events generalizing since with
  | nil =>
    cases hold with
    | true => simp [Run.nextEvent] at heard
    | false =>
      simp only [Run.nextEvent, Bool.false_eq_true, if_false, Option.some.injEq, Prod.mk.injEq] at heard
      obtain ⟨-, rfl, rfl⟩ := heard
      exact .inr ⟨.remote, .inl ⟨rfl, rfl⟩, rfl, by simp [Story.serve, delivered, ending?]⟩
  | cons event rest ih =>
    cases event with
    | wait duration =>
      obtain ⟨payload, later, left, spoken, open_, fewer, same⟩ | ended := ih heard
      · exact .inl ⟨payload, later, left, spoken, open_, Nat.lt_succ_of_lt fewer, same⟩
      · exact .inr ended
    | message payload =>
      simp only [Run.nextEvent, Option.some.injEq, Prod.mk.injEq] at heard
      obtain ⟨-, rfl, rfl⟩ := heard
      exact .inl ⟨payload, _, rest, rfl, rfl, Nat.lt_succ_self _, by
        simp [Story.serve, delivered, ending?]⟩
    | fail error =>
      simp only [Run.nextEvent, Option.some.injEq, Prod.mk.injEq] at heard
      obtain ⟨-, rfl, rfl⟩ := heard
      exact .inr ⟨.transport error.message, .inr ⟨error, rfl, rfl⟩, rfl, by
        simp [Story.serve, delivered, ending?]⟩

private theorem serve_of_nextEvent_none {events : List Event} (quiet : Run.nextEvent since hold events = none)
    (policy : Policy) (calls : List Callback) :
    Story.serve policy calls events hold = ⟨calls, true⟩ := by
  induction events generalizing since with
  | nil =>
    cases hold with
    | true => simp [Story.serve, delivered, ending?]
    | false => simp [Run.nextEvent] at quiet
  | cons event rest ih =>
    cases event with
    | wait duration => simpa [Story.serve, delivered, ending?] using ih quiet
    | message payload => simp [Run.nextEvent] at quiet
    | fail error => simp [Run.nextEvent] at quiet

/-- What the driver hears is part of what was foretold. -/
theorem Foretells.hear {policy : Policy} {driver : Driver} {outlook : Outlook}
    (course : Foretells policy driver outlook calls story)
    (heard : Run.upcoming outlook = some (due, signal, ahead))
    (waiting : driver.isWaiting = true) (unfinished : driver.point ≠ .finished) :
    Foretells policy (driver.receive signal) ahead calls story := by
  cases course with
  | starting | accepted | greeting | delivering | dropping | lost | retrying | abandoning => cases waiting
  | undialled => cases heard
  | finished => exact absurd rfl unfinished
  | dialled due outcome =>
    cases outcome with
    | refuse error =>
      cases heard
      exact Foretells.lost
    | serve events hold =>
      cases heard
      exact Foretells.accepted _ _ events hold
  | waiting delay due retried =>
    cases heard
    exact Foretells.starting retried
  | reading since events hold fresh =>
    obtain ⟨payload, later, rest, rfl, rfl, -, same⟩ | ⟨reason, cause, rfl, same⟩ :=
      serve_of_nextEvent heard
    · rw [same]
      exact Foretells.delivering payload later rest hold fresh
    · rw [same]
      obtain ⟨rfl, rfl⟩ | ⟨error, rfl, rfl⟩ := cause
      · exact Foretells.dropping .remote rfl fresh
      · exact Foretells.dropping (.transport error.message) rfl fresh

/-- A connect goes on with the story. -/
theorem Foretells.dial {policy : Policy} {driver : Driver} {outlook : Outlook}
    (course : Foretells policy driver outlook calls story)
    (undialled : driver.point = .connecting false) (due : Nat) (outcome : Outcome) :
    Foretells policy (driver.receive .dial) (.connects due outcome) calls
      (story.connect policy outcome) := by
  cases course with
  | undialled => exact Foretells.dialled due outcome
  | _ => cases undialled

theorem Story.retry_isPrefix (policy : Policy) (calls : List Callback) :
    calls <+: (Story.retry policy calls).calls := by
  simp only [Story.retry]
  split <;> exact List.prefix_append _ _

theorem Story.serve_isPrefix (policy : Policy) (calls : List Callback) (events : List Event) (hold : Bool) :
    calls <+: (Story.serve policy calls events hold).calls := by
  unfold Story.serve
  split
  · exact List.prefix_append _ _
  · exact ((List.prefix_append _ _).trans (List.prefix_append _ _)).trans (Story.retry_isPrefix _ _)

theorem Story.connect_isPrefix (policy : Policy) (story : Story) (outcome : Outcome) :
    story.calls <+: (story.connect policy outcome).calls := by
  unfold Story.connect
  split
  · exact List.prefix_rfl
  · cases outcome with
    | refuse error => exact Story.retry_isPrefix _ _
    | serve events hold => exact (List.prefix_append _ _).trans (Story.serve_isPrefix _ _ _ _)

/-- Later connects only add to a story. -/
theorem storyOf_isPrefix (policy : Policy) (scripts : List Script) (later : n ≤ m) :
    (storyOf policy scripts n).calls <+: (storyOf policy scripts m).calls := by
  induction later with
  | refl => exact List.prefix_rfl
  | step _ ih =>
    rw [storyOf_succ]
    exact ih.trans (Story.connect_isPrefix _ _ _)

/-- What has been called back is the beginning of the story. -/
theorem Foretells.calls_isPrefix {policy : Policy} (course : Foretells policy driver outlook calls story) :
    calls <+: story.calls := by
  cases course with
  | starting | undialled | waiting | finished => exact List.prefix_rfl
  | dialled due outcome => exact Story.connect_isPrefix policy ⟨calls, false⟩ outcome
  | accepted | greeting | delivering => exact (List.prefix_append _ _).trans (Story.serve_isPrefix _ _ _ _)
  | reading => exact Story.serve_isPrefix _ _ _ _
  | dropping => exact (List.prefix_append _ _).trans (Story.retry_isPrefix _ _)
  | lost => exact Story.retry_isPrefix _ _
  | retrying | abandoning => exact List.prefix_append _ _

/-- Before a connect all of the story so far has been called back. -/
theorem Foretells.story_of_undialled {policy : Policy} {driver : Driver}
    (course : Foretells policy driver outlook calls story)
    (undialled : driver.point = .connecting false) : story = ⟨calls, false⟩ := by
  cases course with
  | undialled => rfl
  | _ => cases undialled

private theorem Foretells.story_of_quiet {policy : Policy} {driver : Driver}
    (course : Foretells policy driver outlook calls story) (waiting : driver.isWaiting = true)
    (dialled : driver.point ≠ .connecting false)
    (quiet : driver.point ≠ .finished → Run.upcoming outlook = none) : story = ⟨calls, true⟩ := by
  cases course with
  | starting | accepted | greeting | delivering | dropping | lost | retrying | abandoning => cases waiting
  | undialled => exact absurd rfl dialled
  | dialled due outcome =>
    have silent := quiet (by simp)
    cases outcome <;> cases silent
  | waiting => cases quiet (by simp)
  | reading since events hold fresh => exact serve_of_nextEvent_none (quiet (by simp)) policy calls
  | finished => rfl

private theorem Foretells.finished_of_exhausted {policy : Policy} {driver : Driver} {link : Link}
    (course : Foretells policy driver outlook calls story) (attached : link.attached = true)
    (told : .closed (.exhausted attempts) ∈ (driver.advance link).2.2) :
    (driver.advance link).1.point = .finished := by
  cases course with
  | abandoning => simp [Driver.advance, Driver.tell, attached]
  | dropping reason passing =>
    simp only [Driver.advance, Driver.tell, attached, if_true, List.mem_singleton,
      Callback.closed.injEq] at told
    cases told
    cases passing
  | lost =>
    simp only [Driver.advance] at told
    split at told <;> cases told
  | _ => simp [Driver.advance, Driver.tell, attached] at told

/-- How many connects can still be made before one of them is open. -/
def Driver.spare (driver : Driver) : Nat :=
  let left := driver.reconnector.policy.maxAttempts - driver.reconnector.retries
  match driver.point with
  | .starting | .connecting false | .retrying _ _ | .waiting _ => left + 1
  | .connecting true | .reading | .delivering _ | .dropping _ | .lost => left
  | .accepted | .greeting | .abandoning _ | .finished => 0

/-- Only the callback of an open connection restores what was spent. -/
theorem Foretells.advance_spare {policy : Policy} {driver : Driver} {link : Link}
    (course : Foretells policy driver outlook calls story) (attached : link.attached = true)
    (unopened : .opened ∉ (driver.advance link).2.2) :
    (driver.advance link).1.spare ≤ driver.spare := by
  cases course with
  | greeting => simp [Driver.advance, Driver.tell, attached] at unopened
  | lost =>
    by_cases spent : policy.maxAttempts ≤ retriesSinceOpen calls
    · simp [Driver.advance, Reconnector.failed, spent, Driver.spare]
    · simp only [Driver.advance, Reconnector.failed, spent, if_false, Driver.spare]
      omega
  | _ => simp [Driver.advance, Driver.tell, attached, Driver.spare]

private theorem Foretells.hear_spare {policy : Policy} {driver : Driver} {outlook : Outlook}
    (course : Foretells policy driver outlook calls story)
    (heard : Run.upcoming outlook = some (due, signal, ahead))
    (waiting : driver.isWaiting = true) (unfinished : driver.point ≠ .finished) :
    (driver.receive signal).spare ≤ driver.spare := by
  cases course with
  | starting | accepted | greeting | delivering | dropping | lost | retrying | abandoning => cases waiting
  | undialled => cases heard
  | finished => exact absurd rfl unfinished
  | dialled due outcome => cases outcome <;> cases heard <;> simp [Driver.receive, Driver.spare]
  | waiting => cases heard; simp [Driver.receive, Driver.spare]
  | reading =>
    obtain ⟨payload, later, rest, rfl, -⟩ | ⟨reason, ⟨rfl, -⟩ | ⟨error, rfl, -⟩, -⟩ :=
      serve_of_nextEvent heard <;> simp [Driver.receive, Driver.spare]

/-- A connection that was open once leaves no more connects than there are retries. -/
theorem Foretells.spare_le {policy : Policy} {driver : Driver}
    (course : Foretells policy driver outlook calls story) (within : driver.IsWithin) :
    driver.spare ≤ policy.maxAttempts + (if .opened ∈ calls then 0 else 1) := by
  have once : ∀ retries, (.opened ∈ calls → 0 < retries) → retries ≤ policy.maxAttempts →
      policy.maxAttempts - retries + 1 ≤ policy.maxAttempts + (if .opened ∈ calls then 0 else 1) := by
    intro retries retried bounded
    split
    · rename_i opened
      have := retried opened
      omega
    · omega
  cases course with
  | starting retried | undialled retried | waiting delay due retried => exact once _ retried within
  | retrying => exact once _ (fun _ => Nat.succ_pos _) within
  | dialled | lost | reading | delivering | dropping => simp only [Driver.spare]; omega
  | accepted | greeting | abandoning | finished => exact Nat.zero_le _

/-- A run that has not been closed, as its scripts and its policy have it. -/
structure OnCourse (policy : Policy) (scripts : List Script) (run : Run) : Prop where
  attached : run.link.attached = true
  running : run.link.stopped = false
  within : run.driver.IsWithin
  ahead : run.scripts = scripts.drop run.dials.length
  course : Foretells policy run.driver run.outlook run.calls (storyOf policy scripts run.dials.length)
  ended : ∀ attempts, .closed (.exhausted attempts) ∈ run.calls → run.driver.point = .finished

namespace OnCourse
variable {policy : Policy} {scripts : List Script} {run next : Run} {move : Move} {moves : List Move}

theorem start (policy : Policy) (scripts : List Script) :
    OnCourse policy scripts (Run.start policy scripts) where
  attached := rfl
  running := rfl
  within := Nat.zero_le _
  ahead := rfl
  course := @Foretells.starting policy [] (by simp)
  ended := by simp [Run.calls, Run.start]

theorem drive (known : OnCourse policy scripts run) (busy : run.driver.isWaiting = false) :
    OnCourse policy scripts run.advance := by
  obtain ⟨attached, running, -⟩ := run.driver.advance_frame run.link
  refine ⟨attached.trans known.attached, running.trans known.running, ?_, known.ahead, ?_, ?_⟩
  · exact run.driver.advance_isWithin run.link known.within
  · rw [Run.calls_advance]
    exact known.course.advance known.within known.attached busy run.now
  · intro attempts
    rw [Run.calls_advance, List.mem_append]
    rintro (before | told)
    · simp [Driver.isWaiting, known.ended attempts before] at busy
    · exact known.course.finished_of_exhausted known.attached told

theorem dial (known : OnCourse policy scripts run) (undialled : run.driver.point = .connecting false) :
    OnCourse policy scripts run.dial := by
  have outcome : (Run.nextScript run.scripts).1.outcome = outcomeAt scripts run.dials.length := by
    rw [known.ahead, outcomeAt]
  refine ⟨known.attached, known.running, known.within, ?_, ?_, ?_⟩
  · rw [Run.dial, known.ahead, List.length_cons, ← List.drop_drop]
    cases scripts.drop run.dials.length <;> rfl
  · have course := known.course.dial undialled (run.now + (Run.nextScript run.scripts).1.delay)
      (outcomeAt scripts run.dials.length)
    rw [← storyOf_succ, ← outcome] at course
    exact course
  · intro attempts before
    exact absurd (undialled.symm.trans (known.ended attempts before)) (by simp)

/-- A move of the driver keeps a run that is not closed on its course. -/
theorem perform (known : OnCourse policy scripts run) (driven : move.isClosing = false)
    (performed : run.perform move = some next) : OnCourse policy scripts next := by
  obtain ⟨busy, rfl⟩ | ⟨undialled, rfl⟩ | ⟨waiting, unfinished, due, signal, outlook, heard, rfl⟩ :=
    Run.driven_cases known.running driven performed
  · exact known.drive busy
  · exact known.dial undialled
  · exact ⟨known.attached, known.running, known.within, known.ahead,
      known.course.hear heard waiting unfinished, fun attempts before =>
        absurd (known.ended attempts before) unfinished⟩

theorem follow (unclosed : Unclosed moves)
    (reached : (Run.start policy scripts).follow moves = some run) : OnCourse policy scripts run :=
  Run.follow_invariant (OnCourse policy scripts)
    (fun _ move _ member known performed => known.perform (unclosed move member) performed)
    (start policy scripts) reached

theorem calls_isPrefix (known : OnCourse policy scripts run) :
    run.calls <+: (storyOf policy scripts run.dials.length).calls := known.course.calls_isPrefix

theorem story_of_isDone (known : OnCourse policy scripts run) (done : run.IsDone) :
    storyOf policy scripts run.dials.length = ⟨run.calls, true⟩ := by
  have waiting : run.driver.isWaiting = true := by simpa [Run.perform] using done .drive rfl
  have dialled : run.driver.point ≠ .connecting false := by simpa [Run.perform] using done .dial rfl
  apply known.course.story_of_quiet waiting dialled
  intro unfinished
  have listening := (Run.isListening_iff run).mpr ⟨waiting, unfinished, dialled⟩
  simpa [Run.perform, listening] using done .hear rfl

private theorem perform_spare (known : OnCourse policy scripts run) (driven : move.isClosing = false)
    (performed : run.perform move = some next)
    (unopened : next.calls.count .opened = run.calls.count .opened) :
    next.dials.length + next.driver.spare ≤ run.dials.length + run.driver.spare := by
  obtain ⟨-, rfl⟩ | ⟨undialled, rfl⟩ | ⟨waiting, unfinished, due, signal, outlook, heard, rfl⟩ :=
    Run.driven_cases known.running driven performed
  · rw [Run.calls_advance, List.count_append] at unopened
    have absent := List.count_eq_zero.mp (Nat.add_eq_left.mp unopened)
    exact Nat.add_le_add_left (known.course.advance_spare known.attached absent) _
  · simp only [Run.dial, List.length_cons, Driver.spare, Driver.receive, undialled]
    omega
  · exact Nat.add_le_add_left (known.course.hear_spare heard waiting unfinished) _

theorem follow_spare (known : OnCourse policy scripts run) (unclosed : Unclosed moves)
    (reached : run.follow moves = some last)
    (unopened : last.calls.count .opened = run.calls.count .opened) :
    last.dials.length + last.driver.spare ≤ run.dials.length + run.driver.spare := by
  induction moves generalizing run with
  | nil =>
    cases reached
    exact Nat.le_refl _
  | cons move rest ih =>
    obtain ⟨next, first, later⟩ := Option.bind_eq_some_iff.mp reached
    have driven := unclosed move (by simp)
    -- Callbacks only ever come to more, so no connection is called open in between either.
    have before := (Run.calls_prefix_of_perform first).sublist.count_le (.opened : Callback)
    have after := (Run.calls_prefix_of_follow later).sublist.count_le (.opened : Callback)
    have step := known.perform_spare driven first (by omega)
    have rest := ih (known.perform driven first) (fun other member => unclosed other (by simp [member]))
      later (by omega)
    omega

end OnCourse
end ProxyWatch.Stream
