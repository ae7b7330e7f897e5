import ProxyWatch.Proofs.Stream.Closing

/-! The connects of a stream after it has been closed.

The driver hears of a close where it calls its handler, which is gone, and where it waits. But where it
waits it may go on with anything else that is due. So a driver that comes to its next connect without
calling the handler may still begin that connect, and it begins no other. -/
namespace ProxyWatch.Stream

/-- Whether the driver comes to its next connect without calling the handler. -/
def Point.isBeforeConnect : Point → Bool
  | .starting | .connecting false | .waiting _ => true
  | _ => false

namespace Driver
variable {driver : Driver} {link : Link} {signal : Signal}

private theorem isBeforeConnect_of_advance (detached : link.attached = false)
    (before : (driver.advance link).1.point.isBeforeConnect = true) :
    driver.point.isBeforeConnect = true := by
  cases point : driver.point with
  | starting | waiting => rfl
  | connecting | reading | finished =>
    rw [advance, point] at before
    exact point ▸ before
  | accepted => simp [advance, point, Point.isBeforeConnect] at before
  | greeting | delivering | dropping | retrying | abandoning =>
    simp [advance, point, tell, detached, Point.isBeforeConnect] at before
  | lost =>
    cases decided : driver.reconnector.failed with
    | mk decision reconnector =>
      cases decision <;> simp [advance, point, decided, Point.isBeforeConnect] at before

theorem isBeforeConnect_of_receive (before : (driver.receive signal).point.isBeforeConnect = true) :
    driver.point.isBeforeConnect = true := by
  cases point : driver.point with
  | starting | waiting => rfl
  | connecting dialled =>
    cases dialled with
    | false => rfl
    | true => cases signal <;> simp [receive, point, Point.isBeforeConnect] at before
  | reading => cases signal <;> simp [receive, point, Point.isBeforeConnect] at before
  | accepted | greeting | delivering | dropping | lost | retrying | abandoning | finished =>
    simp [receive, point, Point.isBeforeConnect] at before

end Driver

/-- A driver that waits for its next retry is woken. -/
theorem Foretells.wakes_of_waiting (course : Foretells policy driver outlook calls story)
    (waiting : driver.point = .waiting delay) : ∃ due, outlook = .wakes due := by
  cases course with
  | waiting delay due => exact ⟨due, rfl⟩
  | _ => cases waiting

namespace Run
variable {run next last : Run} {move : Move} {moves : List Move}

/-- The connects made, and the one that may be made without calling the handler. -/
def connectsAtMost (run : Run) : Nat :=
  run.dials.length + if run.driver.point.isBeforeConnect then 1 else 0

theorem connectsAtMost_le (same : next.dials = run.dials)
    (led : next.driver.point.isBeforeConnect = true → run.driver.point.isBeforeConnect = true) :
    next.connectsAtMost ≤ run.connectsAtMost := by
  rw [connectsAtMost, connectsAtMost, same]
  refine Nat.add_le_add_left ?_ _
  split
  · rename_i before
    exact Nat.le_of_eq (if_pos (led before)).symm
  · exact Nat.zero_le _

/-- A move of a run whose handler is detached makes no connect possible that was not possible before. -/
theorem perform_connectsAtMost (performed : run.perform move = some next)
    (detached : run.link.attached = false) : next.connectsAtMost ≤ run.connectsAtMost := by
  cases move with
  | detach | conclude | signalStop =>
    cases performed
    exact Nat.le_refl _
  | drive =>
    simp only [perform, Option.ite_none_left_eq_some, Option.some.injEq] at performed
    obtain ⟨-, rfl⟩ := performed
    exact connectsAtMost_le rfl (Driver.isBeforeConnect_of_advance detached)
  | dial =>
    simp only [perform, Option.ite_none_right_eq_some, Option.some.injEq] at performed
    obtain ⟨undialled, rfl⟩ := performed
    -- the connect that was possible is the one that is made
    simp [connectsAtMost, dial, Driver.receive, undialled, Point.isBeforeConnect]
  | hear =>
    simp only [perform, Option.ite_none_right_eq_some, Option.map_eq_some_iff] at performed
    obtain ⟨-, heard, -, rfl⟩ := performed
    exact connectsAtMost_le rfl Driver.isBeforeConnect_of_receive
  | stop =>
    simp only [perform, Option.ite_none_right_eq_some, Option.some.injEq] at performed
    obtain ⟨-, rfl⟩ := performed
    exact connectsAtMost_le rfl Driver.isBeforeConnect_of_receive

private theorem follow_connectsAtMost (reached : run.follow moves = some last)
    (detached : run.link.attached = false) : last.connectsAtMost ≤ run.connectsAtMost := by
  have kept := follow_invariant
    (fun later => later.link.attached = false ∧ later.connectsAtMost ≤ run.connectsAtMost)
    (fun _ _ _ _ known performed => ⟨(perform_of_detached performed known.1).1,
      Nat.le_trans (perform_connectsAtMost performed known.1) known.2⟩)
    ⟨detached, Nat.le_refl _⟩ reached
  exact kept.2

private theorem stopped_of_perform (performed : run.perform move = some next) (stopped : run.link.stopped = true) :
    next.link.stopped = true := by
  obtain ⟨link, -⟩ | ⟨-, link | link | link | link⟩ := perform_cases performed
  · rw [link]
    exact (run.driver.advance_frame run.link).2.1.trans stopped
  · exact link ▸ stopped
  · exact link ▸ stopped
  · exact link ▸ (run.link.setState_stopped _).trans stopped
  · exact link ▸ rfl

private theorem dials_of_step? (stepped : run.step? limit = some next) (stopped : run.link.stopped = true) :
    next.dials = run.dials := by
  cases waiting : run.driver.isWaiting with
  | false =>
    simp only [step?, waiting, Bool.not_false, if_true, Option.some.injEq] at stepped
    exact stepped ▸ rfl
  | true =>
    by_cases finished : run.driver.point = .finished
    · simp [step?, waiting, finished] at stepped
    · simp only [step?, waiting, finished, stopped, Bool.not_true, Bool.false_eq_true, if_false, if_true,
        Option.some.injEq] at stepped
      exact stepped ▸ rfl

private theorem dials_iterate (stopped : run.link.stopped = true) (limit fuel : Nat) :
    (run.iterate limit fuel).dials = run.dials := by
  induction fuel generalizing run with
  | zero => rfl
  | succ fuel ih =>
    cases stepped : run.step? limit with
    | none => simp [iterate, stepped]
    | some next =>
      obtain ⟨move, -, performed⟩ := perform_of_step? stepped
      simp only [iterate, stepped]
      exact (ih (stopped_of_perform performed stopped)).trans (dials_of_step? stepped stopped)

private theorem stopped_of_follow_signalStop (reached : run.follow (moves ++ [.signalStop]) = some last) :
    last.link.stopped = true := by
  rw [follow_append] at reached
  obtain ⟨before, -, signalled⟩ := Option.bind_eq_some_iff.mp reached
  cases signalled
  rfl

theorem follow_dial (undialled : run.driver.point = .connecting false) :
    run.follow [.dial] = some run.dial := by
  simp [follow, perform, undialled]

theorem follow_start (starting : run.driver.point = .starting) :
    run.follow [.drive, .dial] = some run.advance.dial := by
  have undialled : run.advance.driver.point = .connecting false := by
    simp [advance, Driver.advance, starting]
  have driven : run.perform .drive = some run.advance := by
    simp [perform, Driver.isWaiting, starting]
  rw [follow, driven]
  exact follow_dial undialled

private theorem exists_follow_wake (waiting : run.driver.point = .waiting delay) (ahead : run.outlook = .wakes due) :
    ∃ last, run.follow [.hear, .drive, .dial] = some last ∧ last.dials.length = run.dials.length + 1 := by
  obtain ⟨woken, heard, same, starting⟩ : ∃ woken, run.perform .hear = some woken ∧
      woken.dials = run.dials ∧ woken.driver.point = .starting := by
    refine ⟨{ run with now := max run.now due, driver := run.driver.receive .elapsed, outlook := .idle },
      ?_, rfl, ?_⟩
    · simp [perform, isListening, waiting, ahead, upcoming]
    · simp [Driver.receive, waiting]
  refine ⟨woken.advance.dial, ?_, same ▸ rfl⟩
  rw [follow, heard]
  exact follow_start starting

end Run

/-- A run that comes to a connect without calling its handler may make it, closed or not. -/
theorem exists_connect {policy : Policy} {scripts : List Script} {run : Run}
    (reached : (Run.start policy scripts).follow moves = some run)
    (before : run.driver.point.isBeforeConnect = true) :
    ∃ later last, Unclosed later ∧ run.follow later = some last ∧
      last.dials.length = run.dials.length + 1 := by
  cases point : run.driver.point with
  | connecting dialled =>
    cases dialled with
    | true => simp [point, Point.isBeforeConnect] at before
    | false => exact ⟨_, _, by simp [Unclosed, Move.isClosing], Run.follow_dial point, rfl⟩
  | starting => exact ⟨_, _, by simp [Unclosed, Move.isClosing], Run.follow_start point, rfl⟩
  | waiting delay =>
    -- what a closed run is about to hear is known from the run beside it that is not closed
    obtain ⟨shadow, mirrored⟩ := follow_mirrored reached
    have same := mirrored.same (by simp [point])
    obtain ⟨due, ahead⟩ := mirrored.course.course.wakes_of_waiting (by rw [same]; exact point)
    have outlook : run.outlook = .wakes due := by rw [← ahead, same]
    obtain ⟨last, woken, more⟩ := Run.exists_follow_wake point outlook
    exact ⟨_, last, by simp [Unclosed, Move.isClosing], woken, more⟩
  | accepted | greeting | reading | delivering | dropping | lost | retrying | abandoning | finished =>
    simp [point, Point.isBeforeConnect] at before

/-- The connects after a close. There is one at most, and one may come exactly where the driver gets to it
without calling the handler: before it first runs, and from a wait for a retry up to that retry. Where stop
is heard before all else none comes. -/
theorem connects_of_close (policy : Policy) (scripts : List Script)
    (earlier between rest : List Move) (before run : Run)
    (detached : (Run.start policy scripts).follow (earlier ++ .detach :: between) = some before)
    (closed : before.follow (.conclude :: rest ++ [.signalStop]) = some run) :
    (∀ later last, run.follow later = some last →
      last.dials.length ≤ run.dials.length + if run.driver.point.isBeforeConnect then 1 else 0) ∧
    (run.driver.point.isBeforeConnect = true → ∃ later last, Unclosed later ∧
      run.follow later = some last ∧ last.dials.length = run.dials.length + 1) ∧
    ∀ limit, (run.runTo limit).dials = run.dials := by
  have gone := (Run.follow_of_detached closed (Run.attached_of_follow_detach detached)).1
  have stopped := Run.stopped_of_follow_signalStop closed
  refine ⟨?_, ?_, fun limit => Run.dials_iterate stopped limit _⟩
  · intro later last reached
    exact Nat.le_trans (Nat.le_add_right _ _) (Run.follow_connectsAtMost reached gone)
  · intro ahead
    have whole : (Run.start policy scripts).follow
        ((earlier ++ .detach :: between) ++ (.conclude :: rest ++ [.signalStop])) = some run := by
      rw [Run.follow_append, detached]
      exact closed
    exact exists_connect whole ahead

/-- A stream that is closed while it waits for its first retry may still make that retry, and no other. -/
theorem connects_of_close_retry :
    ∃ before run,
      (Run.start ⟨3000, 10⟩ []).follow [.drive, .dial, .hear, .drive, .drive, .detach] = some before ∧
      before.follow [.conclude, .signalStop] = some run ∧
      (∀ later last, run.follow later = some last → last.dials.length ≤ 2) ∧
      (∃ later last, Unclosed later ∧ run.follow later = some last ∧ last.dials.length = 2) ∧
      ∀ limit, (run.runTo limit).dials = [0] := by
  obtain ⟨few, one, none⟩ := connects_of_close ⟨3000, 10⟩ [] [.drive, .dial, .hear, .drive, .drive] [] [] _ _
    rfl rfl
  exact ⟨_, _, rfl, rfl, few, one rfl, none⟩

/-- A connect after a close: the stream is closed before its driver first runs, or at the very instant at
which a wait for a retry is over. -/
theorem connect_after_close :
    let opened := Run.start ⟨3000, 10⟩ []
    let unstarted := opened.close
    let retried := (opened.runBefore 3000).close
    (unstarted.dials = [] ∧
      (unstarted.follow [.drive, .dial]).map (fun last => (last.link.state, last.dials)) =
        some (.closed .explicit, [0])) ∧
    (retried.now = 3000 ∧ retried.outlook = .wakes 3000 ∧ retried.dials = [0] ∧
      (retried.follow [.hear, .drive, .dial]).map (fun last => (last.link.state, last.dials)) =
        some (.closed .explicit, [3000, 0])) := by
  decide +kernel

end ProxyWatch.Stream
