import ProxyWatch.Proofs.Stream.Watching

/-! What the consumer of a stream is told when the stream gives up.

A status that is shown already is not published again. So there is no publication after the state was closed
exactly if a connection was lost and there are no retries: the loss shows all that giving up would show. -/
namespace ProxyWatch.Stream

/-- A feed that publishes its being closed unless it shows it already. -/
structure Channel (Feed : Type) extends Display Feed where
  closes : ∀ feed reason, (react feed (.closed reason)).1 = true ↔ shown feed ≠ .afterClose reason

theorem ConnectionFeed.setStatus_published (feed : ConnectionFeed) (status : Status) :
    (feed.setStatus status).1 = true ↔ feed.view.status ≠ status := by
  unfold setStatus
  split <;> simp [*]

def ConnectionFeed.channel : Channel ConnectionFeed where
  toDisplay := display
  closes feed _ := feed.setStatus_published _

theorem LogFeed.setStatus_published (feed : LogFeed) (status : Status) :
    (feed.setStatus status).1 = true ↔ feed.report.status ≠ status := by
  unfold setStatus
  split <;> simp [*]

def LogFeed.channel : Channel LogFeed where
  toDisplay := display
  closes feed _ := feed.setStatus_published _

/-- The stream gave up when it had lost a connection, without a retry. -/
def GaveUpAtOnce (policy : Policy) (calls : List Callback) : Prop :=
  policy.maxAttempts = 0 ∧ .opened ∈ calls

/-- The handler was told that the stream gave up. -/
def IsTold (calls : List Callback) : Prop := ∃ attempts, .closed (.exhausted attempts) ∈ calls

/-- What is known of the state by where the driver stands. -/
def StateAt (state : State) : Point → Prop
  | .abandoning _ => state.isExhausted = true
  | .finished => True
  | _ => state.isClosed = false

/-- What is known of the status and of the retries by where the driver stands: enough to tell whether
giving up changes the status. -/
def KnownAt (policy : Policy) (calls : List Callback) (status : Status) (retries : Nat) : Point → Prop
  | .starting | .connecting _ | .waiting _ =>
    status ≠ .disconnected ∧ (.opened ∈ calls → 0 < policy.maxAttempts)
  | .accepted | .finished => True
  | .greeting => retries = 0
  | .reading | .delivering _ => retries = 0 ∧ .opened ∈ calls
  | .dropping reason => retries = 0 ∧ .opened ∈ calls ∧ reason.isTerminal = false
  | .lost =>
    (status = .disconnected ∧ .opened ∈ calls ∧ retries = 0) ∨
      (status ≠ .disconnected ∧ (.opened ∈ calls → 0 < policy.maxAttempts))
  | .retrying _ _ => 0 < policy.maxAttempts
  | .abandoning _ => status = .disconnected ↔ GaveUpAtOnce policy calls

variable {Feed : Type} {policy : Policy} {display : Display Feed} {channel : Channel Feed}
  {watched other opened : Watched Feed} {next : Run} {move : Move} {calls : List Callback}

theorem isTold_concat_iff (callback : Callback) :
    IsTold (calls ++ [callback]) ↔ IsTold calls ∨ ∃ attempts, callback = .closed (.exhausted attempts) := by
  simp only [IsTold, List.mem_append, List.mem_singleton, exists_or, eq_comm]

private theorem isTerminal_of_receive {driver : Driver} (reading : driver.point = .reading)
    (lost : (driver.receive signal).point = .dropping reason) : reason.isTerminal = false := by
  cases signal <;> simp only [Driver.receive, reading, Point.dropping.injEq, reduceCtorEq] at lost
  · exact lost ▸ rfl
  · exact lost ▸ rfl

/-- What a waiting driver hears changes neither the status nor the retries. -/
theorem KnownAt.receive {driver : Driver} {retries : Nat}
    (known : KnownAt policy calls status retries driver.point) (going : signal ≠ .stop) :
    KnownAt policy calls status retries (driver.receive signal).point := by
  obtain same | ⟨dialled, point, next | next | next⟩ | ⟨point, ⟨payload, next⟩ | ⟨reason, next⟩⟩ |
    ⟨delay, point, next⟩ := driver.receive_cases going
  · rwa [same]
  all_goals rw [point] at known; rw [next]
  · exact known
  · trivial
  · exact .inr known
  · exact known
  · exact ⟨known.1, known.2, isTerminal_of_receive point next⟩
  · exact known

theorem StateAt.receive {driver : Driver} {state : State} (stands : StateAt state driver.point)
    (going : signal ≠ .stop) : StateAt state (driver.receive signal).point := by
  obtain same | ⟨dialled, point, next | next | next⟩ | ⟨point, ⟨payload, next⟩ | ⟨reason, next⟩⟩ |
    ⟨delay, point, next⟩ := driver.receive_cases going
  · rwa [same]
  all_goals rw [point] at stands; rw [next]; exact stands

theorem StateAt.open_of_waiting {driver : Driver} {state : State} (stands : StateAt state driver.point)
    (waiting : driver.isWaiting = true) (unfinished : driver.point ≠ .finished) :
    state.isClosed = false := by
  unfold Driver.isWaiting at waiting
  cases point : driver.point <;> simp [point] at waiting unfinished <;> rw [point] at stands <;> exact stands

namespace Watched

/-- What is known of a stream until a close has set its state. -/
structure Expects (policy : Policy) (display : Display Feed) (watched : Watched Feed) : Prop where
  held : watched.run.driver.reconnector.policy = policy
  stands : StateAt watched.run.link.state watched.run.driver.point
  known : KnownAt policy watched.run.calls (display.shown watched.feed)
    watched.run.driver.reconnector.retries watched.run.driver.point
  untold : watched.run.driver.point ≠ .finished → ¬ IsTold watched.run.calls
  told : watched.run.driver.point = .finished → watched.run.link.state.isExhausted = true →
    watched.run.link.attached = true → IsTold watched.run.calls
  announced : watched.IsAnnounced ↔ IsTold watched.run.calls ∧ ¬ GaveUpAtOnce policy watched.run.calls

namespace Expects

theorem same (expects : Expects policy display watched) (run : other.run = watched.run)
    (shown : display.shown other.feed = display.shown watched.feed)
    (published : other.published = watched.published) : Expects policy display other := by
  constructor
  · exact run ▸ expects.held
  · exact run ▸ expects.stands
  · rw [run, shown]
    exact expects.known
  · exact run ▸ expects.untold
  · exact run ▸ expects.told
  · rw [IsAnnounced, published, run]
    exact expects.announced

theorem quiet (expects : Expects policy display watched) (silent : next.calls = watched.run.calls)
    (held : next.driver.reconnector.policy = policy)
    (stands : StateAt next.link.state next.driver.point)
    (known : KnownAt policy watched.run.calls (display.shown watched.feed) next.driver.reconnector.retries
      next.driver.point)
    (going : next.driver.point ≠ .finished → watched.run.driver.point ≠ .finished)
    (told : next.driver.point = .finished → next.link.state.isExhausted = true →
      next.link.attached = true → IsTold watched.run.calls) :
    Expects policy display (watched.moveOn display.react next) := by
  rw [moveOn_of_silent silent]
  refine ⟨held, stands, silent ▸ known, ?_, silent ▸ told, silent ▸ expects.announced⟩
  intro unfinished
  rw [silent]
  exact expects.untold (going unfinished)

theorem listen (expects : Expects policy display watched) (silent : next.calls = watched.run.calls)
    (link : next.link = watched.run.link) (kept : next.driver.reconnector = watched.run.driver.reconnector)
    (before : watched.run.driver.point ≠ .finished) (open_ : watched.run.link.state.isClosed = false)
    (stands : StateAt watched.run.link.state next.driver.point)
    (known : KnownAt policy watched.run.calls (display.shown watched.feed)
      watched.run.driver.reconnector.retries next.driver.point) :
    Expects policy display (watched.moveOn display.react next) := by
  refine expects.quiet silent (kept ▸ expects.held) (link ▸ stands) (kept ▸ known) (fun _ => before) ?_
  rw [link]
  intro _ exhausted
  rw [State.isClosed_of_isExhausted exhausted] at open_
  cases open_

theorem set {driver : Driver} {state : State} (expects : Expects policy display watched)
    (before : watched.run.driver.point ≠ .finished)
    (step : ∀ link : Link, watched.run.driver.advance link = (driver, link.setState state, []))
    (open_ : watched.run.link.state.isClosed = false) (unfinished : driver.point ≠ .finished)
    (held : driver.reconnector.policy = policy) (stands : StateAt state driver.point)
    (known : KnownAt policy watched.run.calls (display.shown watched.feed) driver.reconnector.retries
      driver.point) :
    Expects policy display (watched.moveOn display.react watched.run.advance) := by
  have silent : watched.run.advance.calls = watched.run.calls := by
    rw [Run.calls_advance, step, List.append_nil]
  have driven : watched.run.advance.driver = driver := by rw [Run.advance, step]
  have link : watched.run.advance.link.state = state := by
    rw [Run.advance, step]
    exact Link.setState_of_not_isClosed open_ state
  rw [← driven] at unfinished held known stands
  refine expects.quiet silent held (link ▸ stands) known (fun _ => before) ?_
  exact fun finished => absurd finished unfinished

/-- A step of the driver that would tell the handler something ends the stream if the handler is gone. -/
theorem untell {callback : Callback} {point : Point} (expects : Expects policy display watched)
    (before : watched.run.driver.point ≠ .finished)
    (step : ∀ link, watched.run.driver.advance link = watched.run.driver.tell link callback point)
    (detached : watched.run.link.attached = false) :
    Expects policy display (watched.moveOn display.react watched.run.advance) := by
  have ended : watched.run.driver.advance watched.run.link =
      ({ watched.run.driver with point := .finished }, watched.run.link, []) := by
    simp [step, Driver.tell, detached]
  have silent : watched.run.advance.calls = watched.run.calls := by
    rw [Run.calls_advance, ended, List.append_nil]
  have driver : watched.run.advance.driver = { watched.run.driver with point := .finished } := by
    rw [Run.advance, ended]
  have link : watched.run.advance.link = watched.run.link := by rw [Run.advance, ended]
  refine expects.quiet silent ?_ ?_ ?_ (fun _ => before) ?_
  · rw [driver]
    exact expects.held
  · rw [driver]
    trivial
  · rw [driver]
    trivial
  · rw [link, detached]
    exact fun _ _ attached => by cases attached

end Expects

/-- A step of the driver that tells the handler something, and what becomes of it. -/
theorem moveOn_of_tell (react : Feed → Callback → Bool × Feed) {callback : Callback} {point : Point}
    (attached : watched.run.link.attached = true)
    (step : ∀ link, watched.run.driver.advance link = watched.run.driver.tell link callback point) :
    let after := watched.moveOn react watched.run.advance
    after.run.driver = { watched.run.driver with point } ∧ after.run.link = watched.run.link ∧
      after.run.calls = watched.run.calls ++ [callback] ∧ after.feed = (react watched.feed callback).2 ∧
      (after.IsAnnounced ↔ watched.IsAnnounced ∨
        (react watched.feed callback).1 = true ∧ watched.run.link.state.isExhausted = true) := by
  have told : watched.run.driver.advance watched.run.link =
      ({ watched.run.driver with point }, watched.run.link, [callback]) := by
    simp [step, Driver.tell, attached]
  have calls : watched.run.advance.calls = watched.run.calls ++ [callback] := by
    rw [Run.calls_advance, told]
  have link : watched.run.advance.link = watched.run.link := by rw [Run.advance, told]
  simp only [moveOn_of_told calls, run_hear, feed_hear, isAnnounced_hear_iff, link]
  refine ⟨?_, trivial, calls, trivial, Iff.rfl⟩
  rw [Run.advance, told]

namespace Expects

/-- A step of the driver that tells the handler anything but that the stream gave up. -/
theorem tell {callback : Callback} {point : Point} (expects : Expects policy display watched)
    (before : watched.run.driver.point ≠ .finished)
    (step : ∀ link, watched.run.driver.advance link = watched.run.driver.tell link callback point)
    (open_ : watched.run.link.state.isClosed = false) (unfinished : point ≠ .finished)
    (going : ∀ attempts, callback ≠ .closed (.exhausted attempts))
    (stands : StateAt watched.run.link.state point)
    (known : KnownAt policy (watched.run.calls ++ [callback])
      (display.shown (display.react watched.feed callback).2) watched.run.driver.reconnector.retries point) :
    Expects policy display (watched.moveOn display.react watched.run.advance) := by
  cases attached : watched.run.link.attached with
  | false => exact expects.untell before step attached
  | true =>
    obtain ⟨driver, link, calls, feed, announced⟩ := moveOn_of_tell display.react attached step
    have untold : ¬ IsTold (watched.run.calls ++ [callback]) := by
      rw [isTold_concat_iff]
      rintro (earlier | ⟨attempts, same⟩)
      · exact expects.untold before earlier
      · exact going attempts same
    have unspent : ¬ watched.run.link.state.isExhausted = true := by
      intro spent
      rw [State.isClosed_of_isExhausted spent] at open_
      cases open_
    constructor
    · rw [driver]
      exact expects.held
    · rw [driver, link]
      exact stands
    · rw [driver, calls, feed]
      exact known
    · rw [calls]
      exact fun _ => untold
    · rw [driver]
      exact fun finished => absurd finished unfinished
    · have unannounced : ¬ watched.IsAnnounced := fun earlier =>
        expects.untold before (expects.announced.mp earlier).1
      rw [announced, calls]
      simp [unannounced, unspent, untold]

/-- Giving up is announced unless the loss of a connection has shown all of it. -/
theorem abandon (expects : Expects policy channel.toDisplay watched)
    (abandoning : watched.run.driver.point = .abandoning attempts) :
    Expects policy channel.toDisplay (watched.moveOn channel.react watched.run.advance) := by
  have before : watched.run.driver.point ≠ .finished := by simp [abandoning]
  have step : ∀ link, watched.run.driver.advance link =
      watched.run.driver.tell link (.closed (.exhausted attempts)) .finished := by
    simp [Driver.advance, abandoning]
  cases attached : watched.run.link.attached with
  | false => exact expects.untell before step attached
  | true =>
    obtain ⟨driver, link, calls, feed, announced⟩ := moveOn_of_tell channel.react attached step
    have stands := expects.stands
    have known := expects.known
    rw [abandoning] at stands known
    have spent : watched.run.link.state.isExhausted = true := stands
    have lost : channel.shown watched.feed = .disconnected ↔ GaveUpAtOnce policy watched.run.calls := known
    have told : IsTold (watched.run.calls ++ [.closed (.exhausted attempts)]) :=
      (isTold_concat_iff _).mpr (.inr ⟨attempts, rfl⟩)
    constructor
    · rw [driver]
      exact expects.held
    · rw [driver]
      trivial
    · rw [driver]
      trivial
    · rw [driver]
      exact fun unfinished => absurd rfl unfinished
    · rw [calls]
      exact fun _ _ _ => told
    · have unannounced : ¬ watched.IsAnnounced := fun earlier =>
        expects.untold before (expects.announced.mp earlier).1
      have publishes := channel.closes watched.feed (.exhausted attempts)
      have same : GaveUpAtOnce policy (watched.run.calls ++ [.closed (.exhausted attempts)]) ↔
          GaveUpAtOnce policy watched.run.calls := by simp [GaveUpAtOnce]
      rw [announced, publishes, calls, same, ← lost]
      simp [unannounced, told, spent, Status.afterClose]

/-- Once a connection has been lost, or a connect refused, the driver retries or gives up. -/
theorem retryOrGiveUp (expects : Expects policy display watched) (lost : watched.run.driver.point = .lost) :
    Expects policy display (watched.moveOn display.react watched.run.advance) := by
  have before : watched.run.driver.point ≠ .finished := by simp [lost]
  have open_ := expects.stands
  have known := expects.known
  rw [lost] at open_ known
  by_cases spent : watched.run.driver.reconnector.policy.maxAttempts ≤ watched.run.driver.reconnector.retries
  · have step : ∀ link : Link, watched.run.driver.advance link =
        ({ watched.run.driver with point := .abandoning watched.run.driver.reconnector.retries },
          link.setState (.closed (.exhausted watched.run.driver.reconnector.retries)), []) := by
      simp [Driver.advance, lost, Reconnector.failed, spent]
    refine expects.set before step open_ (by simp) expects.held rfl ?_
    rw [expects.held] at spent
    obtain ⟨shown, opened, fresh⟩ | ⟨shown, kept⟩ := known
    · exact ⟨fun _ => ⟨by omega, opened⟩, fun _ => shown⟩
    · refine ⟨fun same => absurd same shown, fun silent => ?_⟩
      obtain ⟨unretried, opened⟩ := silent
      exact absurd (kept opened) (by omega)
  · have step : ∀ link : Link, watched.run.driver.advance link =
        ({ point := .retrying (watched.run.driver.reconnector.retries + 1)
             watched.run.driver.reconnector.policy.interval,
           reconnector := { watched.run.driver.reconnector with
             retries := watched.run.driver.reconnector.retries + 1 } },
          link.setState (.reconnecting (watched.run.driver.reconnector.retries + 1)), []) := by
      simp [Driver.advance, lost, Reconnector.failed, spent]
    refine expects.set before step open_ (by simp) expects.held rfl ?_
    rw [expects.held] at spent
    exact Nat.pos_of_ne_zero fun unretried => spent (unretried ▸ Nat.zero_le _)

theorem drive (expects : Expects policy channel.toDisplay watched)
    (busy : watched.run.driver.isWaiting = false) :
    Expects policy channel.toDisplay (watched.moveOn channel.react watched.run.advance) := by
  have stands := expects.stands
  have known := expects.known
  cases point : watched.run.driver.point with
  | connecting | reading | waiting | finished => simp [Driver.isWaiting, point] at busy
  | lost => exact expects.retryOrGiveUp point
  | abandoning attempts => exact expects.abandon point
  | starting =>
    rw [point] at stands known
    have step : ∀ link : Link, watched.run.driver.advance link =
        ({ watched.run.driver with point := .connecting false }, link.setState .connecting, []) := by
      simp [Driver.advance, point]
    exact expects.set (by simp [point]) step stands (by simp) expects.held rfl known
  | accepted =>
    rw [point] at stands
    have step : ∀ link : Link, watched.run.driver.advance link =
        ({ point := .greeting, reconnector := watched.run.driver.reconnector.opened },
          link.setState .opened, []) := by
      simp [Driver.advance, point]
    exact expects.set (by simp [point]) step stands (by simp) expects.held rfl rfl
  | greeting =>
    rw [point] at stands known
    have step : ∀ link : Link,
        watched.run.driver.advance link = watched.run.driver.tell link .opened .reading := by
      simp [Driver.advance, point]
    exact expects.tell (by simp [point]) step stands (by simp) (by simp) stands ⟨known, by simp⟩
  | delivering payload =>
    rw [point] at stands known
    have step : ∀ link : Link,
        watched.run.driver.advance link = watched.run.driver.tell link (.message payload) .reading := by
      simp [Driver.advance, point]
    exact expects.tell (by simp [point]) step stands (by simp) (by simp) stands
      ⟨known.1, by simp [known.2]⟩
  | dropping reason =>
    rw [point] at stands known
    obtain ⟨fresh, opened, retried⟩ := known
    have step : ∀ link : Link,
        watched.run.driver.advance link = watched.run.driver.tell link (.closed reason) .lost := by
      simp [Driver.advance, point]
    have going : ∀ attempts, Callback.closed reason ≠ .closed (.exhausted attempts) := by
      rintro attempts ⟨⟩
      cases retried
    have shown : Status.afterClose reason = .disconnected := by
      cases reason with
      | explicit => cases retried
      | remote | transport | exhausted => rfl
    exact expects.tell (by simp [point]) step stands (by simp) going stands
      (.inl ⟨(channel.closed _ _).trans shown, by simp [opened], fresh⟩)
  | retrying attempt delay =>
    rw [point] at stands known
    have step : ∀ link : Link, watched.run.driver.advance link =
        watched.run.driver.tell link (.reconnecting attempt) (.waiting delay) := by
      simp [Driver.advance, point]
    refine expects.tell (by simp [point]) step stands (by simp) (by simp) stands ⟨?_, fun _ => known⟩
    simp [channel.reconnecting]

theorem perform (expects : Expects policy channel.toDisplay watched)
    (performed : watched.run.perform move = some next) (unclosed : next.link.state ≠ .closed .explicit) :
    Expects policy channel.toDisplay (watched.moveOn channel.react next) := by
  cases move with
  | drive =>
    simp only [Run.perform, Option.ite_none_left_eq_some, Option.some.injEq] at performed
    obtain ⟨busy, rfl⟩ := performed
    exact expects.drive (by simpa using busy)
  | dial =>
    simp only [Run.perform, Option.ite_none_right_eq_some, Option.some.injEq] at performed
    obtain ⟨undialled, rfl⟩ := performed
    have open_ := expects.stands.open_of_waiting (by simp [Driver.isWaiting, undialled]) (by simp [undialled])
    exact expects.listen rfl rfl rfl (by simp [undialled]) open_ (expects.stands.receive (by simp))
      (expects.known.receive (by simp))
  | hear =>
    simp only [Run.perform, Option.ite_none_right_eq_some, Option.map_eq_some_iff] at performed
    obtain ⟨listening, ⟨due, signal, ahead⟩, heard, rfl⟩ := performed
    obtain ⟨waiting, unfinished, -⟩ := (Run.isListening_iff _).mp listening
    have going := Run.upcoming_ne_stop heard
    exact expects.listen rfl rfl rfl unfinished (expects.stands.open_of_waiting waiting unfinished)
      (expects.stands.receive going) (expects.known.receive going)
  | stop =>
    simp only [Run.perform, Option.ite_none_right_eq_some, Option.some.injEq, Bool.and_eq_true,
      decide_eq_true_eq] at performed
    obtain ⟨⟨⟨waiting, unfinished⟩, -⟩, rfl⟩ := performed
    have ended := watched.run.driver.receive_stop waiting
    refine expects.listen rfl rfl rfl unfinished (expects.stands.open_of_waiting waiting unfinished) ?_ ?_
    · exact ended ▸ trivial
    · exact ended ▸ trivial
  | detach =>
    cases performed
    exact expects.quiet rfl expects.held expects.stands expects.known id (fun _ _ attached => by cases attached)
  | signalStop =>
    cases performed
    exact expects.quiet rfl expects.held expects.stands expects.known id expects.told
  | conclude =>
    cases performed
    cases closed : watched.run.link.state.isClosed with
    | false => exact absurd (Link.setState_of_not_isClosed closed _) unclosed
    | true =>
      have same := Link.setState_of_isClosed closed (.closed .explicit)
      rw [same]
      exact expects.quiet rfl expects.held expects.stands expects.known id expects.told

end Expects

theorem Reached.expects (reached : Reached channel.toDisplay opened watched)
    (start : Expects policy channel.toDisplay opened) :
    watched.run.link.state = .closed .explicit ∨ Expects policy channel.toDisplay watched := by
  induction reached with
  | start => exact .inr start
  | @adjusted watched change _ adjusts known =>
    exact known.imp id fun expects => expects.same rfl (channel.adjusted watched.feed change adjusts) rfl
  | @turned watched turn _ known =>
    cases turn with
    | wake =>
      unfold perform wake
      dsimp only
      split
      · exact known.imp id fun expects => expects.same rfl rfl rfl
      · exact known
    | look =>
      unfold perform look
      dsimp only
      split
      · exact known.imp id fun expects => expects.same rfl rfl rfl
      · exact known
    | stream move =>
      cases performed : watched.run.perform move with
      | none => simpa [perform, performed] using known
      | some next =>
        simp only [perform, performed, run_moveOn]
        by_cases explicit : next.link.state = .closed .explicit
        · exact .inl explicit
        obtain before | expects := known
        · have final := Run.perform_of_isClosed performed (by rw [before]; rfl)
          exact absurd (final.trans before) explicit
        · exact .inr (expects.perform performed explicit)

theorem Expects.start (policy : Policy) (scripts : List Script) {feed : Feed}
    (shown : display.shown feed = .connecting) :
    Expects policy display { run := .start policy scripts, feed } where
  held := rfl
  stands := rfl
  known := ⟨by simp [shown], by simp [Run.start, Run.calls]⟩
  untold _ := by simp [IsTold, Run.start, Run.calls]
  told finished := by cases finished
  announced := by simp [IsAnnounced, IsTold, Run.start, Run.calls]

/-- What a consumer gets to know of a stream that has given up: it is notified if the handler was told and
did not show that much already, and then it ends as soon as it has had its turns. The handler is told
unless it was detached. -/
structure Settles (policy : Policy) (watched : Watched Feed) : Prop where
  announced : watched.IsAnnounced ↔ IsTold watched.run.calls ∧ ¬ GaveUpAtOnce policy watched.run.calls
  told : watched.run.link.attached = true → IsTold watched.run.calls
  ends : watched.IsAnnounced → watched.look.wake.look.watcher = .ended

theorem Reached.settles (channel : Channel Feed) {feed : Feed}
    (reached : Reached channel.toDisplay { run := .start policy scripts, feed } watched)
    (shown : channel.shown feed = .connecting) (finished : watched.run.driver.point = .finished)
    (exhausted : watched.run.link.state.isExhausted = true) : watched.Settles policy := by
  have attentive := reached.attentive (fun announced => by simp [IsAnnounced] at announced)
  obtain explicit | expects := reached.expects (Expects.start policy scripts shown)
  · rw [explicit] at exhausted
    cases exhausted
  · exact ⟨expects.announced, expects.told finished exhausted, attentive.ends⟩

end Watched

/-- Whatever the policy and the connects are, and in whichever order the driver, the consumer and a close
take their turns: when a stream has given up, its consumer has been notified of it, unless the handler was
detached before or there are no retries and a connection was lost. -/
theorem settles_of_exhausted (policy : Policy) (scripts : List Script) :
    (∀ watched,
      Watched.Reached ConnectionFeed.display { run := .start policy scripts, feed := {} } watched →
      watched.run.driver.point = .finished → watched.run.link.state.isExhausted = true →
      watched.Settles policy) ∧
    (∀ capacity watched,
      Watched.Reached LogFeed.display { run := .start policy scripts, feed := .empty capacity }
        watched →
      watched.run.driver.point = .finished → watched.run.link.state.isExhausted = true →
      watched.Settles policy) :=
  ⟨fun _ reached => reached.settles ConnectionFeed.channel rfl,
    fun _ _ reached => reached.settles LogFeed.channel rfl⟩

/-- A stream that never connects gives up at its first try, and both consumers are notified and end. -/
theorem settles_of_exhausted_refused :
    let turns : List Turn := [.stream .drive, .stream .dial, .stream .hear, .stream .drive, .stream .drive]
    let connections := ({ run := .start ⟨5, 0⟩ [], feed := {} } : Watched ConnectionFeed).follow
      ConnectionFeed.react turns
    let logs := ({ run := .start ⟨5, 0⟩ [], feed := .empty 3 } : Watched LogFeed).follow
      LogFeed.react turns
    (connections.run.link.state = .closed (.exhausted 0) ∧ connections.IsAnnounced ∧
      connections.look.wake.look.watcher = .ended) ∧
    (logs.run.link.state = .closed (.exhausted 0) ∧ logs.IsAnnounced ∧
      logs.look.wake.look.watcher = .ended) := by
  intro turns connections logs
  obtain ⟨ofConnections, ofLogs⟩ := settles_of_exhausted ⟨5, 0⟩ []
  have settled := ofConnections connections (.follow .start turns) (by decide +kernel) (by decide +kernel)
  have settledLogs := ofLogs 3 logs (.follow .start turns) (by decide +kernel) (by decide +kernel)
  have unopened : ∀ calls, .opened ∉ calls → ¬ GaveUpAtOnce ⟨5, 0⟩ calls := fun _ never met => never met.2
  have heard := settled.announced.mpr ⟨settled.told rfl, unopened _ (by decide +kernel)⟩
  have logged := settledLogs.announced.mpr ⟨settledLogs.told rfl, unopened _ (by decide +kernel)⟩
  exact ⟨⟨by decide +kernel, heard, settled.ends heard⟩, ⟨by decide +kernel, logged, settledLogs.ends logged⟩⟩

/-- Without retries a connection is lost while the consumer looks on: it sees that nothing is closed yet, and
then the stream gives up without a word. Whatever comes, both consumers wait forever. -/
theorem forsaken_at_once :
    let lost : List Turn := [.stream .drive, .stream .dial, .stream .hear, .stream .drive, .stream .drive,
      .stream .hear, .stream .drive, .wake, .look, .stream .drive, .stream .drive]
    let connections := ({ run := .start ⟨5, 0⟩ [⟨0, .serve [] false⟩], feed := {} } :
      Watched ConnectionFeed).follow ConnectionFeed.react lost
    let logs := ({ run := .start ⟨5, 0⟩ [⟨0, .serve [] false⟩], feed := .empty 3 } :
      Watched LogFeed).follow LogFeed.react lost
    (connections.run.link.state = .closed (.exhausted 0) ∧ IsTold connections.run.calls ∧
      ¬ connections.IsAnnounced ∧
      ∀ turns, (connections.follow ConnectionFeed.react turns).watcher = .waiting) ∧
    (logs.run.link.state = .closed (.exhausted 0) ∧ IsTold logs.run.calls ∧ ¬ logs.IsAnnounced ∧
      ∀ turns, (logs.follow LogFeed.react turns).watcher = .waiting) := by
  intro lost connections logs
  have unheard : connections.IsForsaken := ⟨by decide +kernel, by decide +kernel, by decide +kernel⟩
  have unlogged : logs.IsForsaken := ⟨by decide +kernel, by decide +kernel, by decide +kernel⟩
  have published : connections.published = [.opened, .opened] := by decide +kernel
  have reported : logs.published = [.opened, .opened] := by decide +kernel
  refine ⟨⟨by decide +kernel, ⟨0, by decide +kernel⟩, ?_, fun turns => (unheard.follow turns).waiting⟩,
    ⟨by decide +kernel, ⟨0, by decide +kernel⟩, ?_, fun turns => (unlogged.follow turns).waiting⟩⟩
  · simp [Watched.IsAnnounced, published, State.isExhausted]
  · simp [Watched.IsAnnounced, reported, State.isExhausted]

end ProxyWatch.Stream
