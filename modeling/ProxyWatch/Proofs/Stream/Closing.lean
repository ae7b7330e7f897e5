import ProxyWatch.Proofs.Stream.CallbackTrace

/-! Closing a stream at any moment of its run.

A close that has detached the handler ends the callbacks, and one that has set the state ends its
changes, wherever the driver stands and whichever of its waits it goes on from. Until then a run makes
the callbacks of a run that is not closed. -/
namespace ProxyWatch.Stream

variable {policy : Policy} {scripts : List Script} {run next last shadow : Run} {move : Move}
  {moves : List Move}

/-- A stream is only closed by its controller or when its retries are spent. -/
def State.IsProper (state : State) : Prop :=
  ∀ reason, state = .closed reason → reason = .explicit ∨ ∃ attempts, reason = .exhausted attempts

theorem Link.setState_of_isClosed {link : Link} (closed : link.state.isClosed = true) (state : State) :
    link.setState state = link := if_pos closed

theorem Link.setState_of_not_isClosed {link : Link} (open_ : link.state.isClosed = false) (state : State) :
    (link.setState state).state = state := by
  simp [Link.setState, open_]

theorem Link.setState_isProper {link : Link} {state : State} (proper : link.state.IsProper)
    (next : state.IsProper) : (link.setState state).state.IsProper := by
  unfold Link.setState
  split
  · exact proper
  · exact next

namespace Driver
variable (driver : Driver) (link : Link)

private theorem advance_isProper (proper : link.state.IsProper) : (driver.advance link).2.1.state.IsProper := by
  obtain ⟨callback, next, step⟩ | ⟨next, state, step, spent, -⟩ | step := advance_cases driver
  · rw [step, tell]
    split <;> exact proper
  · rw [step]
    exact Link.setState_isProper proper fun reason closed => .inr (spent reason closed)
  · rwa [step]

private theorem advance_of_isClosed (closed : link.state.isClosed = true) : (driver.advance link).2.1 = link := by
  obtain ⟨callback, next, step⟩ | ⟨next, state, step, -⟩ | step := advance_cases driver
  · rw [step, tell]
    split <;> rfl
  · rw [step]
    exact Link.setState_of_isClosed closed state
  · rw [step]

private theorem advance_of_detached (detached : link.attached = false) : (driver.advance link).2.2 = [] := by
  obtain ⟨callback, next, step⟩ | ⟨next, state, step, -⟩ | step := advance_cases driver
  · simp [step, tell, detached]
  · rw [step]
  · rw [step]

theorem receive_stop (waiting : driver.isWaiting = true) : (driver.receive .stop).point = .finished := by
  unfold isWaiting at waiting
  cases point : driver.point <;> simp [receive, point] at waiting ⊢

/-- The link decides about a step only where the handler is to be called: without one the driver ends. -/
theorem advance_of_attached {other : Link} (attached : other.attached = true) :
    ((driver.advance link).1.point = .finished ∧ (driver.advance link).2.2 = []) ∨
    ((driver.advance link).1 = (driver.advance other).1 ∧
      (driver.advance link).2.2 = (driver.advance other).2.2) := by
  obtain ⟨callback, next, step⟩ | ⟨next, state, step, -⟩ | step := advance_cases driver
  · cases present : link.attached with
    | true => exact .inr (by simp [step, tell, present, attached])
    | false => exact .inl (by simp [step, tell, present])
  · exact .inr (by simp [step])
  · exact .inr (by simp [step])

end Driver

namespace Run

theorem perform_isProper (performed : run.perform move = some next)
    (proper : run.link.state.IsProper) : next.link.state.IsProper := by
  obtain ⟨link, -⟩ | ⟨-, link | link | link | link⟩ := perform_cases performed
  · rw [link]
    exact run.driver.advance_isProper run.link proper
  · rwa [link]
  · rwa [link]
  · rw [link]
    exact Link.setState_isProper proper (by simp [State.IsProper])
  · rwa [link]

/-- A closed state never changes. -/
theorem perform_of_isClosed (performed : run.perform move = some next)
    (closed : run.link.state.isClosed = true) : next.link.state = run.link.state := by
  obtain ⟨link, -⟩ | ⟨-, link | link | link | link⟩ := perform_cases performed
  · rw [link, run.driver.advance_of_isClosed run.link closed]
  · rw [link]
  · rw [link]
    rfl
  · rw [link, Link.setState_of_isClosed closed]
  · rw [link]
    rfl

/-- Without a handler nothing is called back, and the handler does not come back. -/
theorem perform_of_detached (performed : run.perform move = some next)
    (detached : run.link.attached = false) :
    next.link.attached = false ∧ next.calls = run.calls := by
  obtain ⟨link, calls⟩ | ⟨calls, link | link | link | link⟩ := perform_cases performed
  · rw [link, calls, run.driver.advance_of_detached run.link detached, List.append_nil]
    exact ⟨(run.driver.advance_frame run.link).1.trans detached, rfl⟩
  · exact ⟨link ▸ detached, calls⟩
  · exact ⟨link ▸ rfl, calls⟩
  · exact ⟨link ▸ (run.link.setState_attached _).trans detached, calls⟩
  · exact ⟨link ▸ detached, calls⟩

private theorem follow_isProper (reached : run.follow moves = some last) (proper : run.link.state.IsProper) :
    last.link.state.IsProper :=
  follow_invariant (·.link.state.IsProper) (fun _ _ _ _ known performed => perform_isProper performed known)
    proper reached

theorem follow_of_isClosed (reached : run.follow moves = some last)
    (closed : run.link.state.isClosed = true) : last.link.state = run.link.state := by
  apply follow_invariant (·.link.state = run.link.state) _ rfl reached
  intro middle move next _ known performed
  exact (perform_of_isClosed performed (known ▸ closed)).trans known

theorem follow_of_detached (reached : run.follow moves = some last)
    (detached : run.link.attached = false) : last.link.attached = false ∧ last.calls = run.calls := by
  apply follow_invariant (fun later => later.link.attached = false ∧ later.calls = run.calls) _
    ⟨detached, rfl⟩ reached
  intro middle move next _ known performed
  obtain ⟨stays, calls⟩ := perform_of_detached performed known.1
  exact ⟨stays, calls.trans known.2⟩

/-- A handler that was detached stays so. -/
theorem attached_of_follow_detach {between : List Move}
    (reached : run.follow (moves ++ .detach :: between) = some last) : last.link.attached = false := by
  rw [follow_append] at reached
  obtain ⟨before, -, rest⟩ := Option.bind_eq_some_iff.mp reached
  obtain ⟨after, detached, later⟩ := Option.bind_eq_some_iff.mp rest
  cases detached
  exact (follow_of_detached later rfl).1

private theorem state_of_follow_conclude (reached : run.follow (.conclude :: moves) = some last) :
    last.link.state.isClosed = true ∧
      last.link.state = if run.link.state.isClosed then run.link.state else .closed .explicit := by
  obtain ⟨after, concluded, later⟩ := Option.bind_eq_some_iff.mp reached
  cases concluded
  cases closed : run.link.state.isClosed with
  | true =>
    have same := Link.setState_of_isClosed closed (.closed .explicit)
    have kept := follow_of_isClosed later (by rw [same]; exact closed)
    rw [same] at kept
    exact ⟨kept ▸ closed, kept⟩
  | false =>
    have set := Link.setState_of_not_isClosed closed (.closed .explicit)
    have kept := (follow_of_isClosed later (by rw [set]; rfl)).trans set
    exact ⟨kept ▸ rfl, kept⟩

/-- The controller's close is its three moves. -/
theorem follow_close (run : Run) : run.follow [.detach, .conclude, .signalStop] = some run.close := rfl

/-- A controller that is dropped closes the link, and the driver ends where it waits. -/
theorem follow_drop (waiting : run.driver.isWaiting = true) (unfinished : run.driver.point ≠ .finished) :
    run.follow [.detach, .conclude, .signalStop, .stop] = some { run.drop with outlook := .idle } := by
  have ended : run.driver.receive .stop = { run.driver with point := .finished } := by
    rw [← run.driver.receive_stop waiting]
    rfl
  have possible : run.close.perform .stop =
      some { run.close with driver := run.driver.receive .stop, outlook := .idle } := by
    simp [perform, close, Link.close, Link.signalStop, waiting, unfinished]
  change (run.close.perform .stop).bind (fun next => next.follow []) = _
  rw [possible, ended]
  rfl

private theorem perform_relink (link : Link) (outward : move = .dial ∨ move = .hear)
    (performed : run.perform move = some next) :
    ({ run with link } : Run).perform move = some { next with link } := by
  rcases outward with rfl | rfl
  · simp only [perform, Option.ite_none_right_eq_some, Option.some.injEq] at performed ⊢
    obtain ⟨undialled, rfl⟩ := performed
    exact ⟨undialled, rfl⟩
  · simp only [perform, Option.ite_none_right_eq_some, Option.map_eq_some_iff] at performed ⊢
    obtain ⟨listening, heard, coming, rfl⟩ := performed
    exact ⟨listening, heard, coming, rfl⟩

end Run

/-- A run that may have been closed, beside one that has not: they have called back the same, and only
their links differ as long as the first one's driver has not ended. -/
structure Mirrors (policy : Policy) (scripts : List Script) (run shadow : Run) : Prop where
  course : OnCourse policy scripts shadow
  callbacks : shadow.callbacks = run.callbacks
  same : run.driver.point ≠ .finished → shadow = { run with link := shadow.link }

namespace Mirrors

private theorem relink (known : Mirrors policy scripts run shadow) (link : Link) :
    Mirrors policy scripts { run with link } shadow :=
  ⟨known.course, known.callbacks, known.same⟩

/-- A run that has ended calls nothing back. -/
theorem finish (known : Mirrors policy scripts run shadow) (finished : next.driver.point = .finished)
    (silent : next.callbacks = run.callbacks) : Mirrors policy scripts next shadow :=
  ⟨known.course, known.callbacks.trans silent.symm, fun unfinished => absurd finished unfinished⟩

theorem drive (known : Mirrors policy scripts run shadow) (busy : run.driver.isWaiting = false) :
    ∃ shadow, Mirrors policy scripts run.advance shadow := by
  have unfinished : run.driver.point ≠ .finished := by
    intro finished
    simp [Driver.isWaiting, finished] at busy
  have same := known.same unfinished
  have driver : shadow.driver = run.driver := by rw [same]
  obtain ⟨finished, silent⟩ | ⟨point, told⟩ := run.driver.advance_of_attached run.link known.course.attached
  · exact ⟨shadow, known.finish finished (by simp [Run.advance, silent])⟩
  · refine ⟨shadow.advance, known.course.drive (driver ▸ busy), ?_, fun _ => ?_⟩
    · rw [same]
      simp [Run.advance, told]
    · rw [same]
      simp [Run.advance, point, told]

theorem outward (known : Mirrors policy scripts run shadow) (unfinished : run.driver.point ≠ .finished)
    (outward : move = .dial ∨ move = .hear) (performed : run.perform move = some next) :
    ∃ shadow, Mirrors policy scripts next shadow := by
  have mirrored := Run.perform_relink shadow.link outward performed
  rw [← known.same unfinished] at mirrored
  have driven : move.isClosing = false := by
    rcases outward with rfl | rfl <;> rfl
  exact ⟨_, known.course.perform driven mirrored, rfl, fun _ => rfl⟩

/-- Each move is mirrored by a move of a run that is not closed, or by none. -/
theorem perform (known : Mirrors policy scripts run shadow) (performed : run.perform move = some next) :
    ∃ shadow, Mirrors policy scripts next shadow := by
  cases move with
  | detach | conclude | signalStop =>
    cases performed
    exact ⟨shadow, known.relink _⟩
  | drive =>
    simp only [Run.perform, Option.ite_none_left_eq_some, Option.some.injEq] at performed
    obtain ⟨busy, rfl⟩ := performed
    exact known.drive (by simpa using busy)
  | stop =>
    simp only [Run.perform, Option.ite_none_right_eq_some, Option.some.injEq, Bool.and_eq_true] at performed
    obtain ⟨⟨⟨waiting, -⟩, -⟩, rfl⟩ := performed
    exact ⟨shadow, known.finish (run.driver.receive_stop waiting) rfl⟩
  | dial =>
    have undialled : run.driver.point = .connecting false := by
      simp only [Run.perform, Option.ite_none_right_eq_some] at performed
      exact performed.1
    exact known.outward (by simp [undialled]) (.inl rfl) performed
  | hear =>
    have listening : run.isListening = true := by
      simp only [Run.perform, Option.ite_none_right_eq_some] at performed
      exact performed.1
    exact known.outward ((Run.isListening_iff run).mp listening).2.1 (.inr rfl) performed

end Mirrors

theorem follow_mirrored (reached : (Run.start policy scripts).follow moves = some run) :
    ∃ shadow, Mirrors policy scripts run shadow :=
  Run.follow_invariant (fun run => ∃ shadow, Mirrors policy scripts run shadow)
    (fun _ _ _ _ ⟨_, known⟩ performed => known.perform performed)
    ⟨_, OnCourse.start policy scripts, rfl, fun _ => rfl⟩ reached

/-- What a run calls back is the beginning of what the same connects lead to without a close. -/
theorem calls_prefix_of_unclosed (reached : (Run.start policy scripts).follow moves = some run) :
    ∃ instant, ∀ limit, instant ≤ limit →
      run.calls <+: ((Run.start policy scripts).runTo limit).calls := by
  obtain ⟨shadow, mirrored⟩ := follow_mirrored reached
  obtain ⟨instant, connects, ended⟩ := runTo_story policy scripts
  refine ⟨instant, fun limit late => ?_⟩
  have whole := (ended limit late).2
  have same : run.calls = shadow.calls := by rw [Run.calls, Run.calls, mirrored.callbacks]
  rw [same]
  have begun := mirrored.course.calls_isPrefix
  rcases Nat.le_total shadow.dials.length connects with fewer | more
  · have longer := begun.trans (storyOf_isPrefix policy scripts fewer)
    rwa [whole] at longer
  · rw [storyOf_of_isOver (by rw [whole]) more, whole] at begun
    exact begun

/-- Closing a stream at any moment. Once a close has made its moves, whatever came in between, nothing
is called back any more and the state is closed for good: by the close, or because the retries had been
spent before. In every run what is called back is the beginning of what the same connects lead to
without a close, and a closed state is one of these two and final. -/
theorem close_is_final (policy : Policy) (scripts : List Script) :
    (∀ earlier between before rest run later last,
      (Run.start policy scripts).follow (earlier ++ .detach :: between) = some before →
      before.follow (.conclude :: rest ++ [.signalStop]) = some run →
      run.follow later = some last →
      last.calls = run.calls ∧ last.link.state = run.link.state ∧
      (∀ attempts, before.link.state = .closed (.exhausted attempts) →
        last.link.state = .closed (.exhausted attempts)) ∧
      ((∀ attempts, before.link.state ≠ .closed (.exhausted attempts)) →
        last.link.state = .closed .explicit)) ∧
    (∀ moves run, (Run.start policy scripts).follow moves = some run →
      (∃ instant, ∀ limit, instant ≤ limit →
        run.calls <+: ((Run.start policy scripts).runTo limit).calls) ∧
      (∀ reason, run.link.state = .closed reason →
        (reason = .explicit ∨ ∃ attempts, reason = .exhausted attempts) ∧
        ∀ later last, run.follow later = some last → last.link.state = .closed reason)) := by
  have proper : ∀ moves run, (Run.start policy scripts).follow moves = some run →
      run.link.state.IsProper := fun _ _ reached =>
    Run.follow_isProper reached (by simp [State.IsProper, Run.start])
  refine ⟨?_, ?_⟩
  · intro earlier between before rest run later last reached concluded goesOn
    have detached := Run.attached_of_follow_detach reached
    obtain ⟨stays, -⟩ := Run.follow_of_detached concluded detached
    obtain ⟨-, silent⟩ := Run.follow_of_detached goesOn stays
    obtain ⟨closed, state⟩ := Run.state_of_follow_conclude concluded
    have final := Run.follow_of_isClosed goesOn closed
    refine ⟨silent, final, ?_, ?_⟩
    · intro attempts exhausted
      rw [final, state, exhausted]
      rfl
    · intro unspent
      rw [final, state]
      cases settled : before.link.state with
      | closed reason =>
        obtain rfl | ⟨attempts, rfl⟩ := proper _ before reached reason settled
        · rfl
        · exact absurd settled (unspent attempts)
      | connecting | opened | reconnecting => rfl
  · intro moves run reached
    refine ⟨calls_prefix_of_unclosed reached, fun reason closed => ⟨proper moves run reached reason closed, ?_⟩⟩
    intro later last goesOn
    exact (Run.follow_of_isClosed goesOn (by simp [closed, State.isClosed])).trans closed

/-- A payload that was heard before the handler was detached is not delivered after it. -/
theorem close_is_final_before_delivery :
    ∃ run last, (Run.start ⟨5, 1⟩ [⟨0, .serve [.message "a"] false⟩]).follow
        [.drive, .dial, .hear, .drive, .drive, .hear, .detach, .conclude, .signalStop] = some run ∧
      run.follow [.drive] = some last ∧
      last.calls = run.calls ∧ last.link.state = .closed .explicit := by
  obtain ⟨silent, -, -, closed⟩ := (close_is_final ⟨5, 1⟩ [⟨0, .serve [.message "a"] false⟩]).1
    [.drive, .dial, .hear, .drive, .drive, .hear] [] _ [] _ [.drive] _ rfl rfl rfl
  exact ⟨_, _, rfl, rfl, silent, closed fun attempts same => by cases same⟩

end ProxyWatch.Stream
