import ProxyWatch.Stream.Script

/-! Runs of a stream whose controller may close it between any two steps of the driver.

A close is three moves of its own. Where several of the driver's waits are over at once, any of them
may be taken: the stop signal has no precedence. Runs in virtual time are among these runs. -/
namespace ProxyWatch.Stream

variable (driver : Driver) (link : Link)

theorem Link.setState_attached (state : State) : (link.setState state).attached = link.attached := by
  unfold Link.setState
  split <;> rfl

theorem Link.setState_stopped (state : State) : (link.setState state).stopped = link.stopped := by
  unfold Link.setState
  split <;> rfl

/-- The retries stay within the budget. -/
def Driver.IsWithin : Prop := driver.reconnector.retries ≤ driver.reconnector.policy.maxAttempts

namespace Driver

/-- What a step of the driver's own does to any link: it calls the handler, or it sets the state. It
closes the stream only when the retries are spent. -/
theorem advance_cases :
    (∃ callback next, ∀ link, driver.advance link = driver.tell link callback next) ∨
    (∃ next state, (∀ link : Link, driver.advance link = (next, link.setState state, [])) ∧
      (∀ reason, state = .closed reason → ∃ attempts, reason = .exhausted attempts) ∧
      (next.reconnector = driver.reconnector ∨ next.reconnector = driver.reconnector.opened ∨
        next.reconnector = driver.reconnector.failed.2)) ∨
    ∀ link, driver.advance link = (driver, link, []) := by
  unfold advance
  cases driver.point with
  | greeting => exact .inl ⟨_, _, fun _ => rfl⟩
  | delivering payload => exact .inl ⟨_, _, fun _ => rfl⟩
  | dropping reason => exact .inl ⟨_, _, fun _ => rfl⟩
  | retrying attempt delay => exact .inl ⟨_, _, fun _ => rfl⟩
  | abandoning attempts => exact .inl ⟨_, _, fun _ => rfl⟩
  | starting => exact .inr (.inl ⟨_, _, fun _ => rfl, by simp, .inl rfl⟩)
  | accepted => exact .inr (.inl ⟨_, _, fun _ => rfl, by simp, .inr (.inl rfl)⟩)
  | lost =>
    right
    left
    cases decided : driver.reconnector.failed with
    | mk decision reconnector =>
      cases decision with
      | retry attempt delay => exact ⟨_, _, fun _ => rfl, by simp, .inr (.inr rfl)⟩
      | giveUp attempts => exact ⟨_, _, fun _ => rfl, by simp, .inr (.inr rfl)⟩
  | connecting | reading | waiting | finished => exact .inr (.inr fun _ => rfl)

/-- Only the controller detaches the handler and signals stop, and a step makes one callback at most. -/
theorem advance_frame :
    (driver.advance link).2.1.attached = link.attached ∧
    (driver.advance link).2.1.stopped = link.stopped ∧
    (driver.advance link).2.2.reverse = (driver.advance link).2.2 := by
  obtain ⟨callback, next, step⟩ | ⟨next, state, step, -⟩ | step := advance_cases driver
  · rw [step, tell]
    split <;> simp
  · rw [step]
    exact ⟨link.setState_attached state, link.setState_stopped state, rfl⟩
  · rw [step]
    simp

theorem advance_isWithin (within : driver.IsWithin) : (driver.advance link).1.IsWithin := by
  unfold IsWithin at within ⊢
  obtain ⟨callback, next, step⟩ | ⟨next, state, step, -, same | opened | failed⟩ | step :=
    advance_cases driver
  · rw [step, tell]
    split <;> exact within
  · rwa [step, same]
  · rw [step, opened]
    exact Nat.zero_le _
  · rw [step, failed, Reconnector.failed]
    split
    · exact within
    · rename_i left
      exact Nat.lt_of_not_le left
  · rwa [step]

end Driver

/-- What can happen next. A controller that is dropped closes its link first, so that ending the
driver where it waits is nothing but `stop`. -/
inductive Move where
  | drive
  | dial
  | hear
  | stop
  | detach
  | conclude
  | signalStop
  deriving DecidableEq, Repr

/-- The moves of a close. -/
def Move.isClosing : Move → Bool
  | detach | conclude | signalStop => true
  | drive | dial | hear | stop => false

/-- The controller is never closed. -/
def Unclosed (moves : List Move) : Prop := ∀ move ∈ moves, move.isClosing = false

namespace Run

/-- The callbacks so far, first to last. -/
def calls (run : Run) : List Callback := (run.callbacks.map (·.2)).reverse

/-- Whether the driver waits for something from outside. -/
def isListening (run : Run) : Bool :=
  match run.driver.point with
  | .connecting true | .reading | .waiting _ => true
  | _ => false

/-- The driver begins a connect. -/
def dial (run : Run) : Run :=
  let (script, scripts) := nextScript run.scripts
  { run with
    driver := run.driver.receive .dial
    scripts
    outlook := .connects (run.now + script.delay) script.outcome
    dials := run.now :: run.dials }

/-- The run after a move, if the move is possible. -/
def perform (run : Run) : Move → Option Run
  | .drive => if run.driver.isWaiting then none else some run.advance
  | .dial => if run.driver.point = .connecting false then some run.dial else none
  | .hear =>
    if run.isListening then
      (upcoming run.outlook).map fun (due, signal, outlook) =>
        { run with now := max run.now due, driver := run.driver.receive signal, outlook }
    else none
  | .stop =>
    if run.driver.isWaiting && run.driver.point ≠ .finished && run.link.stopped then
      some { run with driver := run.driver.receive .stop, outlook := .idle }
    else none
  | .detach => some { run with link := run.link.detach }
  | .conclude => some { run with link := run.link.setState (.closed .explicit) }
  | .signalStop => some { run with link := run.link.signalStop }

/-- The run after some moves, first to last, if each of them is possible. -/
def follow (run : Run) : List Move → Option Run
  | [] => some run
  | move :: rest => (run.perform move).bind fun next => next.follow rest

/-- Nothing can happen any more unless the controller closes the stream. -/
def IsDone (run : Run) : Prop := ∀ move, move.isClosing = false → run.perform move = none

variable {run next last : Run} {move : Move} {moves : List Move} {limit : Nat}

theorem follow_append (run : Run) (first second : List Move) :
    run.follow (first ++ second) = (run.follow first).bind fun middle => middle.follow second := by
  induction first generalizing run with
  | nil => rfl
  | cons move rest ih =>
    simp only [List.cons_append, follow]
    cases run.perform move with
    | none => rfl
    | some next => exact ih next

theorem calls_advance (run : Run) :
    run.advance.calls = run.calls ++ (run.driver.advance run.link).2.2 := by
  have single := (run.driver.advance_frame run.link).2.2
  simp [calls, advance, Function.comp_def, single]

/-- A driver that waits, and has not come to its end, listens as soon as it has dialled. -/
theorem isListening_iff (run : Run) :
    run.isListening = true ↔ run.driver.isWaiting = true ∧ run.driver.point ≠ .finished ∧
      run.driver.point ≠ .connecting false := by
  cases point : run.driver.point with
  | connecting dialled => cases dialled <;> simp [isListening, Driver.isWaiting, point]
  | _ => simp [isListening, Driver.isWaiting, point]

/-- What a move does to what the driver shares with its controller, and to what has been called back. -/
theorem perform_cases (performed : run.perform move = some next) :
    (next.link = (run.driver.advance run.link).2.1 ∧
      next.calls = run.calls ++ (run.driver.advance run.link).2.2) ∨
    (next.calls = run.calls ∧ (next.link = run.link ∨ next.link = run.link.detach ∨
      next.link = run.link.setState (.closed .explicit) ∨ next.link = run.link.signalStop)) := by
  cases move with
  | drive =>
    simp only [perform, Option.ite_none_left_eq_some, Option.some.injEq] at performed
    obtain ⟨-, rfl⟩ := performed
    exact .inl ⟨rfl, calls_advance run⟩
  | dial | stop =>
    simp only [perform, Option.ite_none_right_eq_some, Option.some.injEq] at performed
    obtain ⟨-, rfl⟩ := performed
    exact .inr ⟨rfl, .inl rfl⟩
  | hear =>
    simp only [perform, Option.ite_none_right_eq_some, Option.map_eq_some_iff] at performed
    obtain ⟨-, heard, -, rfl⟩ := performed
    exact .inr ⟨rfl, .inl rfl⟩
  | detach => cases performed; exact .inr ⟨rfl, .inr (.inl rfl)⟩
  | conclude => cases performed; exact .inr ⟨rfl, .inr (.inr (.inl rfl))⟩
  | signalStop => cases performed; exact .inr ⟨rfl, .inr (.inr (.inr rfl))⟩

/-- A move makes no callback, or one. -/
theorem calls_of_perform (performed : run.perform move = some next) :
    next.calls = run.calls ∨ ∃ callback, next.calls = run.calls ++ [callback] := by
  obtain ⟨-, more⟩ | ⟨same, -⟩ := perform_cases performed
  · obtain ⟨callback, goal, step⟩ | ⟨goal, state, step, -⟩ | step := run.driver.advance_cases
    · rw [step, Driver.tell] at more
      split at more
      · exact .inr ⟨callback, more⟩
      · exact .inl (by simpa using more)
    · exact .inl (by simpa [step] using more)
    · exact .inl (by simpa [step] using more)
  · exact .inl same

/-- The moves of a driver that no stop is signalled to. -/
theorem driven_cases (running : run.link.stopped = false) (driven : move.isClosing = false)
    (performed : run.perform move = some next) :
    (run.driver.isWaiting = false ∧ next = run.advance) ∨
    (run.driver.point = .connecting false ∧ next = run.dial) ∨
    (run.driver.isWaiting = true ∧ run.driver.point ≠ .finished ∧ ∃ due signal outlook,
      upcoming run.outlook = some (due, signal, outlook) ∧
      next = { run with now := max run.now due, driver := run.driver.receive signal, outlook }) := by
  cases move with
  | detach | conclude | signalStop => cases driven
  | stop => simp [perform, running] at performed
  | drive =>
    simp only [perform, Option.ite_none_left_eq_some, Option.some.injEq] at performed
    obtain ⟨busy, rfl⟩ := performed
    exact .inl ⟨by simpa using busy, rfl⟩
  | dial =>
    simp only [perform, Option.ite_none_right_eq_some, Option.some.injEq] at performed
    obtain ⟨undialled, rfl⟩ := performed
    exact .inr (.inl ⟨undialled, rfl⟩)
  | hear =>
    simp only [perform, Option.ite_none_right_eq_some, Option.map_eq_some_iff] at performed
    obtain ⟨listening, ⟨due, signal, outlook⟩, heard, rfl⟩ := performed
    obtain ⟨waiting, unfinished, -⟩ := (isListening_iff run).mp listening
    exact .inr (.inr ⟨waiting, unfinished, due, signal, outlook, heard, rfl⟩)

/-- What has been called back stays so. -/
theorem calls_prefix_of_perform (performed : run.perform move = some next) : run.calls <+: next.calls := by
  obtain ⟨-, more⟩ | ⟨same, -⟩ := perform_cases performed
  · exact more ▸ List.prefix_append _ _
  · exact same ▸ List.prefix_rfl

/-- An invariant of the moves of a run holds after it. -/
theorem follow_invariant (property : Run → Prop)
    (preserves : ∀ run move next, move ∈ moves → property run → run.perform move = some next →
      property next)
    (initial : property run) (reached : run.follow moves = some last) : property last := by
  induction moves generalizing run with
  | nil =>
    cases reached
    exact initial
  | cons move rest ih =>
    obtain ⟨next, first, later⟩ := Option.bind_eq_some_iff.mp reached
    exact ih (fun run other next member => preserves run other next (List.mem_cons_of_mem move member))
      (preserves run move next List.mem_cons_self initial first) later

theorem calls_prefix_of_follow (reached : run.follow moves = some last) : run.calls <+: last.calls :=
  follow_invariant (run.calls <+: ·.calls)
    (fun _ _ _ _ before performed => before.trans (calls_prefix_of_perform performed))
    List.prefix_rfl reached

theorem isDone_of_finished (finished : run.driver.point = .finished) : run.IsDone := by
  intro move driven
  cases move with
  | detach | conclude | signalStop => cases driven
  | drive | dial | hear | stop => simp [perform, isListening, Driver.isWaiting, finished]

/-- A step in virtual time is one of the moves. -/
theorem perform_of_step? (stepped : run.step? limit = some next) :
    ∃ move, move.isClosing = false ∧ run.perform move = some next := by
  cases waiting : run.driver.isWaiting with
  | false => exact ⟨.drive, rfl, by simpa [perform, step?, waiting] using stepped⟩
  | true =>
    by_cases finished : run.driver.point = .finished
    · simp [step?, waiting, finished] at stepped
    cases stopped : run.link.stopped with
    | true => exact ⟨.stop, rfl, by simpa [perform, step?, waiting, finished, stopped] using stepped⟩
    | false =>
      by_cases undialled : run.driver.point = .connecting false
      · refine ⟨.dial, rfl, ?_⟩
        simp only [step?, waiting, stopped, undialled, Bool.not_true, Bool.false_eq_true, if_false,
          if_true, reduceCtorEq] at stepped
        simpa [perform, undialled, dial] using stepped
      · have listening := (isListening_iff run).mpr ⟨waiting, finished, undialled⟩
        refine ⟨.hear, rfl, ?_⟩
        simp only [step?, waiting, finished, stopped, undialled, Bool.not_true, Bool.false_eq_true,
          if_false] at stepped
        cases heard : upcoming run.outlook with
        | none => simp [heard] at stepped
        | some found =>
          obtain ⟨due, signal, outlook⟩ := found
          by_cases inTime : due ≤ limit
          · simpa [perform, listening, heard, inTime] using stepped
          · simp [heard, inTime] at stepped

/-- What happens in virtual time is brought about by moves of the driver. -/
theorem exists_follow_iterate (limit fuel : Nat) (run : Run) :
    ∃ moves, Unclosed moves ∧ run.follow moves = some (run.iterate limit fuel) := by
  induction fuel generalizing run with
  | zero => exact ⟨[], by simp [Unclosed], rfl⟩
  | succ fuel ih =>
    cases stepped : run.step? limit with
    | none => exact ⟨[], by simp [Unclosed], by simp [follow, iterate, stepped]⟩
    | some next =>
      obtain ⟨move, driven, performed⟩ := perform_of_step? stepped
      obtain ⟨moves, unclosed, reached⟩ := ih next
      refine ⟨move :: moves, by simpa [Unclosed, driven] using unclosed, ?_⟩
      simpa [follow, performed, iterate, stepped] using reached

/-- Each move of the driver, while no stop is signalled, is a step in virtual time as soon as the
limit is late enough. -/
theorem step?_of_perform (running : run.link.stopped = false) (driven : move.isClosing = false)
    (performed : run.perform move = some next) :
    ∃ instant, ∀ limit, instant ≤ limit → run.step? limit = some next := by
  cases move with
  | detach | conclude | signalStop => cases driven
  | stop => simp [perform, running] at performed
  | drive =>
    cases waiting : run.driver.isWaiting with
    | true => simp [perform, waiting] at performed
    | false => exact ⟨0, fun limit _ => by simpa [perform, step?, waiting] using performed⟩
  | dial =>
    by_cases undialled : run.driver.point = .connecting false
    · have waiting : run.driver.isWaiting = true := by simp [Driver.isWaiting, undialled]
      refine ⟨0, fun limit _ => ?_⟩
      simp only [perform, undialled, if_true] at performed
      simpa [step?, waiting, undialled, running, dial] using performed
    · simp [perform, undialled] at performed
  | hear =>
    cases listening : run.isListening with
    | false => simp [perform, listening] at performed
    | true =>
      obtain ⟨waiting, unfinished, dialled⟩ := (isListening_iff run).mp listening
      simp only [perform, listening, if_true, Option.map_eq_some_iff] at performed
      obtain ⟨⟨due, signal, outlook⟩, heard, same⟩ := performed
      refine ⟨due, fun limit inTime => ?_⟩
      simp [step?, waiting, unfinished, dialled, running, heard, inTime, same]

end Run
end ProxyWatch.Stream
