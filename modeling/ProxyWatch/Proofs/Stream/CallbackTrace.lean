import ProxyWatch.Proofs.Stream.Story

/-! Runs that are not closed come to their end, and have called back the whole story by then. -/
namespace ProxyWatch.Stream

/-- How far a driver is from its next connect. -/
@[simp] def Point.stage : Point → Nat
  | .connecting true => 12
  | .accepted => 11
  | .greeting => 10
  | .delivering _ => 10
  | .reading => 9
  | .dropping _ => 8
  | .lost => 7
  | .retrying _ _ => 6
  | .waiting _ => 5
  | .starting => 4
  | .connecting false => 3
  | .abandoning _ => 1
  | .finished => 0

@[simp] def Outcome.events : Outcome → Nat
  | .refuse _ => 0
  | .serve events _ => events.length

/-- The events of the connection that is open or about to open. -/
@[simp] def Outlook.events : Outlook → Nat
  | .connects _ outcome => outcome.events
  | .serves _ events _ => events.length
  | .idle | .wakes _ => 0

/-- A connection is open or about to open, and the budget will be whole again. -/
@[simp] def Outlook.isOpening : Outlook → Bool
  | .connects _ (.serve _ _) | .serves _ _ _ => true
  | .connects _ (.refuse _) | .idle | .wakes _ => false

/-- How many connects can still be made. -/
def connectsLeft (driver : Driver) (outlook : Outlook) : List Script → Nat
  | [] => if outlook.isOpening then driver.reconnector.policy.maxAttempts else driver.spare
  | _ :: rest => rest.length + 1 + driver.reconnector.policy.maxAttempts

/-- The events of scripts that have not been dialled. -/
@[simp] def scriptedEvents : List Script → Nat
  | [] => 0
  | script :: rest => script.outcome.events + scriptedEvents rest

/-- More than the number of moves that are left. Each connect pays for the moves up to the next one,
and each event for its delivery. -/
def effort (driver : Driver) (outlook : Outlook) (scripts : List Script) : Nat :=
  16 * connectsLeft driver outlook scripts + driver.point.stage +
    4 * (outlook.events + scriptedEvents scripts)

variable {policy : Policy} {driver : Driver} {outlook : Outlook} {link : Link} {scripts : List Script}

private theorem Foretells.advance_effort (course : Foretells policy driver outlook calls story)
    (attached : link.attached = true) (busy : driver.isWaiting = false) (now : Nat) :
    effort (driver.advance link).1
        (match (driver.advance link).1.point with
          | .waiting delay => .wakes (now + delay)
          | _ => outlook) scripts < effort driver outlook scripts := by
  cases course with
  | undialled | dialled | reading | waiting | finished => cases busy
  | lost =>
    by_cases spent : policy.maxAttempts ≤ retriesSinceOpen calls <;> cases scripts
    all_goals simp [Driver.advance, Reconnector.failed, spent, effort, connectsLeft, Driver.spare]
    omega
  | _ =>
    cases scripts <;>
      simp [Driver.advance, Driver.tell, Reconnector.opened, attached, effort, connectsLeft,
        Driver.spare]

private theorem Foretells.hear_effort (course : Foretells policy driver outlook calls story)
    (heard : Run.upcoming outlook = some (due, signal, ahead))
    (waiting : driver.isWaiting = true) (unfinished : driver.point ≠ .finished) :
    effort (driver.receive signal) ahead scripts < effort driver outlook scripts := by
  cases course with
  | starting | accepted | greeting | delivering | dropping | lost | retrying | abandoning => cases waiting
  | undialled => cases heard
  | finished => exact absurd rfl unfinished
  | dialled due outcome =>
    cases outcome <;> cases heard <;>
      simp [Driver.receive, effort, connectsLeft, Driver.spare]
  | waiting =>
    cases heard
    simp [Driver.receive, effort, connectsLeft, Driver.spare]
  | reading =>
    obtain ⟨payload, later, rest, rfl, rfl, fewer, -⟩ | ⟨reason, ⟨rfl, -⟩ | ⟨error, rfl, -⟩, rfl, -⟩ :=
      serve_of_nextEvent heard <;> cases scripts <;>
      simp [Driver.receive, effort, connectsLeft, Driver.spare] <;> omega

private theorem Foretells.dial_effort (course : Foretells policy driver outlook calls story)
    (undialled : driver.point = .connecting false) (due : Nat) :
    effort (driver.receive .dial) (.connects due (Run.nextScript scripts).1.outcome)
      (Run.nextScript scripts).2 < effort driver outlook scripts := by
  cases course with
  | undialled =>
    cases scripts with
    | nil => simp [Run.nextScript, Driver.receive, effort, connectsLeft, Driver.spare]; omega
    | cons script rest =>
      cases rest <;> cases outcome : script.outcome <;>
        simp [Run.nextScript, Driver.receive, effort, connectsLeft, Driver.spare, outcome] <;> omega
  | _ => cases undialled

namespace OnCourse
variable {run next : Run} {move : Move}

/-- A run that is not closed cannot go on for ever. -/
theorem perform_effort (known : OnCourse policy scripts run) (driven : move.isClosing = false)
    (performed : run.perform move = some next) :
    effort next.driver next.outlook next.scripts < effort run.driver run.outlook run.scripts := by
  obtain ⟨busy, rfl⟩ | ⟨undialled, rfl⟩ | ⟨waiting, unfinished, due, signal, outlook, heard, rfl⟩ :=
    Run.driven_cases known.running driven performed
  · exact known.course.advance_effort known.attached busy run.now
  · exact known.course.dial_effort undialled _
  · exact known.course.hear_effort heard waiting unfinished

/-- With enough fuel and enough time every run comes to an end. -/
theorem iterate_isDone (fuel : Nat) (known : OnCourse policy scripts run)
    (enough : effort run.driver run.outlook run.scripts ≤ fuel) :
    ∃ last instant, OnCourse policy scripts last ∧ last.IsDone ∧
      ∀ limit, instant ≤ limit → run.iterate limit fuel = last := by
  induction fuel generalizing run with
  | zero =>
    refine ⟨run, 0, known, ?_, fun _ _ => rfl⟩
    intro move driven
    cases performed : run.perform move with
    | none => rfl
    | some next => exact absurd (known.perform_effort driven performed) (by omega)
  | succ fuel ih =>
    by_cases done : run.IsDone
    · refine ⟨run, 0, known, done, fun limit _ => ?_⟩
      cases stepped : run.step? limit with
      | none => simp [Run.iterate, stepped]
      | some next =>
        obtain ⟨move, driven, performed⟩ := Run.perform_of_step? stepped
        simp [done move driven] at performed
    · simp only [Run.IsDone, Classical.not_forall] at done
      obtain ⟨move, driven, possible⟩ := done
      obtain ⟨next, performed⟩ := Option.ne_none_iff_exists'.mp possible
      have less := known.perform_effort driven performed
      obtain ⟨first, stepped⟩ := Run.step?_of_perform known.running driven performed
      obtain ⟨last, second, course, ended, reached⟩ := ih (known.perform driven performed) (by omega)
      refine ⟨last, max first second, course, ended, fun limit late => ?_⟩
      simp only [Run.iterate, stepped limit (by omega)]
      exact reached limit (by omega)

end OnCourse

private theorem budget_start (policy : Policy) (scripts : List Script) :
    (Run.start policy scripts).budget =
      16 * (scripts.length + policy.maxAttempts + 4) + 4 * scriptedEvents scripts := by
  have counted : ∀ counted, scripts.foldl (fun n script =>
      match script.outcome with
      | .refuse _ => n
      | .serve events _ => n + events.length) counted = counted + scriptedEvents scripts := by
    induction scripts with
    | nil => intro counted; rfl
    | cons script rest ih =>
      intro counted
      cases outcome : script.outcome <;> simp [outcome, ih, Nat.add_assoc]
  rw [← Nat.zero_add (scriptedEvents scripts), ← counted 0, ← Nat.zero_add (List.foldl _ 0 scripts)]
  rfl

/-- The budget of a run is enough for all of it. -/
theorem effort_start (policy : Policy) (scripts : List Script) :
    effort (Run.start policy scripts).driver (Run.start policy scripts).outlook
      (Run.start policy scripts).scripts ≤ (Run.start policy scripts).budget := by
  rw [budget_start]
  cases scripts <;> simp [Run.start, Driver.start, effort, connectsLeft, Driver.spare] <;> omega

/-- Once enough time has passed, a run in virtual time has called back a whole story. -/
theorem runTo_story (policy : Policy) (scripts : List Script) :
    ∃ instant connects, ∀ limit, instant ≤ limit →
      ((Run.start policy scripts).runTo limit).dials.length = connects ∧
      storyOf policy scripts connects = ⟨((Run.start policy scripts).runTo limit).calls, true⟩ := by
  obtain ⟨last, instant, course, done, reached⟩ :=
    (OnCourse.start policy scripts).iterate_isDone _ (effort_start policy scripts)
  refine ⟨instant, last.dials.length, fun limit late => ?_⟩
  rw [Run.runTo, reached limit late]
  exact ⟨rfl, course.story_of_isDone done⟩

/-- What a stream that is never closed calls back, whatever its policy and its connects. Between the
connects it has called back the story so far, and when nothing can happen any more the whole story; no
connect and no callback comes after the retries are spent. Up to the first open connection there are
as many connects as there are retries and one more, and from one to the next as many as retries. -/
theorem calls_eq_story (policy : Policy) (scripts : List Script) :
    (∀ moves run, Unclosed moves → (Run.start policy scripts).follow moves = some run →
      run.calls <+: (storyOf policy scripts run.dials.length).calls ∧
      (run.driver.point = .connecting false →
        storyOf policy scripts run.dials.length = ⟨run.calls, false⟩) ∧
      (run.IsDone → storyOf policy scripts run.dials.length = ⟨run.calls, true⟩) ∧
      (∀ attempts, .closed (.exhausted attempts) ∈ run.calls → run.IsDone)) ∧
    (∃ instant connects, ∀ limit, instant ≤ limit →
      ((Run.start policy scripts).runTo limit).dials.length = connects ∧
      storyOf policy scripts connects = ⟨((Run.start policy scripts).runTo limit).calls, true⟩) ∧
    (∀ moves run further last, Unclosed moves → Unclosed further →
      (Run.start policy scripts).follow moves = some run → run.follow further = some last →
      last.calls.count .opened = run.calls.count .opened →
      last.dials.length ≤
        run.dials.length + policy.maxAttempts + (if .opened ∈ run.calls then 0 else 1)) := by
  refine ⟨?_, runTo_story policy scripts, ?_⟩
  · intro moves run unclosed reached
    have known := OnCourse.follow unclosed reached
    exact ⟨known.calls_isPrefix, known.course.story_of_undialled, known.story_of_isDone,
      fun attempts told => Run.isDone_of_finished (known.ended attempts told)⟩
  · intro moves run further last unclosed open_ reached later unopened
    have known := OnCourse.follow unclosed reached
    have paid := known.follow_spare open_ later unopened
    have spare := known.course.spare_le known.within
    omega

theorem calls_eq_story_exhausted :
    ∃ run, (Run.start ⟨5, 1⟩ [⟨0, .serve [.message "a"] false⟩]).follow
        [.drive, .dial, .hear, .drive, .drive, .hear, .drive, .hear, .drive, .drive, .drive, .hear, .drive,
          .dial, .hear, .drive, .drive] = some run ∧
      run.IsDone ∧
      storyOf ⟨5, 1⟩ [⟨0, .serve [.message "a"] false⟩] 2 =
        ⟨[.opened, .message "a", .closed .remote, .reconnecting 1, .closed (.exhausted 1)], true⟩ := by
  obtain ⟨-, -, whole, ended⟩ := (calls_eq_story ⟨5, 1⟩ [⟨0, .serve [.message "a"] false⟩]).1
    [.drive, .dial, .hear, .drive, .drive, .hear, .drive, .hear, .drive, .drive, .drive, .hear, .drive,
      .dial, .hear, .drive, .drive] _ (by simp [Unclosed, Move.isClosing]) rfl
  have done := ended 1 (by decide)
  exact ⟨_, rfl, done, whole done⟩

end ProxyWatch.Stream
