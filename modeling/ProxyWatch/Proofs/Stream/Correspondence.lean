import ProxyWatch.Proofs.Stream.Closing
import ProxyWatch.Proofs.Stream.ViewHistory
import ProxyWatch.Stream.Live
import ProxyWatch.Proofs.Url.Domains

/-! How the status that a stream shows goes with the state of its connection.

The driver sets the state and then tells the handler, which sets the status. In between the two disagree, and they go
together again where the driver waits, unless a close takes the handler away in between: what the handler has not
heard by then it is never told, and a state that is closed already stays as it is. -/
namespace ProxyWatch.Stream

/-- A feed with the status that it shows. Messages leave the status of an open stream such a status, which is none of
the others, and what the consumer does to the feed leaves the status alone. -/
structure Display (Feed : Type) where
  react : Feed → Callback → Bool × Feed
  shown : Feed → Status
  isLive : Status → Prop
  adjusts : (Feed → Feed) → Prop
  isLive_of : ∀ status, isLive status → status.isLive = true
  opened : ∀ feed, isLive (shown (react feed .opened).2)
  message : ∀ feed payload, isLive (shown feed) → isLive (shown (react feed (.message payload)).2)
  closed : ∀ feed reason, shown (react feed (.closed reason)).2 = .afterClose reason
  reconnecting : ∀ feed attempt, shown (react feed (.reconnecting attempt)).2 = .reconnecting attempt
  adjusted : ∀ feed change, adjusts change → shown (change feed) = shown feed

namespace ConnectionFeed

theorem liveStatus_cases (feed : ConnectionFeed) :
    feed.liveStatus = .connected ∨ feed.liveStatus = .stale := by
  cases pending : feed.resyncPending <;> simp [liveStatus, pending]

private theorem react_message_cases (feed : ConnectionFeed) (payload : String) :
    (feed.react (.message payload)).2.view.status = .connected ∨
      (feed.react (.message payload)).2.view.status = .stale := by
  cases read : feed.documentAfter payload with
  | error error => exact .inr (by simp [react, handle, read, setStatus_eq])
  | ok found =>
    simp only [react, handle, read]
    exact liveStatus_cases _

/-- Only the driver changes the view. -/
def display : Display ConnectionFeed where
  react := react
  shown := (·.view.status)
  isLive status := status = .connected ∨ status = .stale
  adjusts _ := False
  isLive_of status := by
    rintro (rfl | rfl) <;> rfl
  opened feed := by
    simp only [react, setStatus_eq]
    exact feed.liveStatus_cases
  message feed payload _ := feed.react_message_cases payload
  closed feed reason := by simp [react, setStatus_eq]
  reconnecting feed attempt := by simp [react, setStatus_eq]
  adjusted _ _ := False.elim

end ConnectionFeed

namespace LogFeed

theorem status_setStatus (feed : LogFeed) (status : Status) :
    (feed.setStatus status).2.report.status = status := by
  unfold setStatus
  split
  · assumption
  · rfl

/-- The consumer has the buffer to itself. -/
def display : Display LogFeed where
  react := react
  shown := (·.report.status)
  isLive status := status = .connected
  adjusts change := ∃ edit, change = (·.onBuffer edit)
  isLive_of status := by
    rintro rfl
    rfl
  opened feed := feed.status_setStatus .connected
  message feed payload live := by
    simp only [react, handle]
    split <;> exact live
  closed feed reason := feed.status_setStatus _
  reconnecting feed attempt := feed.status_setStatus _
  adjusted feed change := by
    rintro ⟨edit, rfl⟩
    rfl

end LogFeed

def Display.after (display : Display Feed) (feed : Feed) (calls : List Callback) : Feed :=
  calls.foldl (fun feed callback => (display.react feed callback).2) feed

/-- The retries that were scheduled, first to last. -/
def retries (calls : List Callback) : List Nat :=
  calls.filterMap fun
    | .reconnecting attempt => some attempt
    | _ => none

/-- What is shown while a connect is under way: the retry that it is, if it is one. -/
def awaiting (calls : List Callback) : Status :=
  match (retries calls).getLast? with
  | none => .connecting
  | some attempt => .reconnecting attempt

/-- The status that goes with a state. -/
def Corresponds (isLive : Status → Prop) (calls : List Callback) (state : State) (status : Status) : Prop :=
  match state with
  | .connecting => status = awaiting calls
  | .opened => isLive status
  | .reconnecting attempt => status = .reconnecting attempt
  | .closed (.exhausted _) => status = .disconnected
  | .closed .explicit => status = .closed
  | .closed .remote | .closed (.transport _) => False

/-- The handler has heard of the state: what it was called last is what goes with it. Of a connect and of a close it is
not told. -/
def IsHeard (calls : List Callback) (state : State) : Prop :=
  match state with
  | .connecting | .closed .explicit => True
  | .opened => calls.getLast? = some .opened ∨ ∃ payload, calls.getLast? = some (.message payload)
  | .reconnecting attempt => calls.getLast? = some (.reconnecting attempt)
  | .closed (.exhausted _) => ∃ reason, calls.getLast? = some (.closed reason)
  | .closed .remote | .closed (.transport _) => False

/-- What the last callback makes of the status. -/
def Shows (isLive : Status → Prop) (last : Option Callback) (status : Status) : Prop :=
  match last with
  | none => status = .connecting
  | some .opened | some (.message _) => isLive status
  | some (.closed _) => status = .disconnected
  | some (.reconnecting attempt) => status = .reconnecting attempt

/-- A connect that nothing has come of so far. -/
def IsPending (calls : List Callback) : Prop :=
  calls.getLast? = none ∨ ∃ attempt, calls.getLast? = some (.reconnecting attempt)

/-- The driver has set this state; the consumer may have closed the stream. -/
def Link.Stands (link : Link) (state : State) : Prop :=
  link.state = .closed .explicit ∨ link.state = state

/-- If the stream is closed it is its consumer who closed it. -/
def Link.IsUnspent (link : Link) : Prop := link.state.isClosed = true → link.state = .closed .explicit

/-- What is known of the state and of the last callback, by where the driver stands. -/
def AgreesAt (calls : List Callback) (link : Link) : Point → Prop
  | .starting => link.IsUnspent ∧ IsPending calls
  | .connecting _ | .accepted => link.Stands .connecting
  | .greeting => link.Stands .opened
  | .reading | .delivering _ => link.Stands .opened ∧ IsHeard calls .opened
  | .dropping reason => link.Stands .opened ∧ reason ≠ .explicit
  | .lost => link.IsUnspent
  | .retrying attempt _ => link.Stands (.reconnecting attempt)
  | .waiting _ => ∃ attempt, link.Stands (.reconnecting attempt) ∧ IsHeard calls (.reconnecting attempt)
  | .abandoning attempts => link.Stands (.closed (.exhausted attempts))
  | .finished => link.attached = false ∨ IsHeard calls link.state

/-- A status says what the state of a run is exactly if the handler has heard of the state. Where the driver waits it
has, unless the driver has ended because its handler was gone. If such a stream is closed, then because it had given
up when the close came. -/
structure StatusFollows (isLive : Status → Prop) (run : Run) (status : Status) : Prop where
  corresponds_iff : Corresponds isLive run.calls run.link.state status ↔ IsHeard run.calls run.link.state
  unheard (waiting : run.driver.isWaiting = true) (unheard : ¬ IsHeard run.calls run.link.state) :
    run.driver.point = .finished ∧ run.link.attached = false ∧
      (run.link.state.isClosed = true → ∃ attempts, run.link.state = .closed (.exhausted attempts))

namespace Display

/-- A stream as its driver, the time and its consumer bring it about. The moves of a close may come between any two
steps of the driver. -/
inductive Reached {Feed : Type} (display : Display Feed) (opened : Live Feed) : Live Feed → Prop where
  | start : Reached display opened opened
  | moved {live next move} (reached : Reached display opened live) (performed : live.run.perform move = some next) :
      Reached display opened (live.moveOn display.react fun _ => next)
  | passed {live} (reached : Reached display opened live) (now : Nat) :
      Reached display opened { live with run := { live.run with now } }
  | adjusted {live change} (reached : Reached display opened live) (adjusts : display.adjusts change) :
      Reached display opened { live with feed := change live.feed }

/-- What is known of a stream: its status is that of the last callback, nothing has come of a connect under way, and
the state and the last callback agree with where the driver stands. -/
structure Tracks {Feed : Type} (display : Display Feed) (calls : List Callback) (link : Link) (feed : Feed)
    (point : Point) : Prop where
  shows : Shows display.isLive calls.getLast? (display.shown feed)
  pending : link.state = .connecting → IsPending calls
  agrees : AgreesAt calls link point

end Display

variable {Feed : Type} {display : Display Feed} {isLive : Status → Prop} {calls : List Callback}
  {state : State} {status : Status} {driver : Driver} {link : Link} {feed : Feed} {signal : Signal}

/-- Where a driver goes on to, unless it is stopped. -/
theorem Driver.receive_cases (driver : Driver) (going : signal ≠ .stop) :
    (driver.receive signal).point = driver.point ∨
    (∃ dialled, driver.point = .connecting dialled ∧ ((driver.receive signal).point = .connecting true ∨
      (driver.receive signal).point = .accepted ∨ (driver.receive signal).point = .lost)) ∨
    (driver.point = .reading ∧ ((∃ payload, (driver.receive signal).point = .delivering payload) ∨
      ∃ reason, (driver.receive signal).point = .dropping reason)) ∨
    ∃ delay, driver.point = .waiting delay ∧ (driver.receive signal).point = .starting := by
  unfold receive
  cases driver.point with
  | connecting dialled => cases dialled <;> cases signal <;> simp at going ⊢
  | reading | waiting => cases signal <;> simp at going ⊢
  | _ => cases signal <;> exact .inl rfl

private theorem awaiting_of_isPending (shows : Shows isLive calls.getLast? status) (pending : IsPending calls) :
    status = awaiting calls := by
  rcases pending with none | ⟨attempt, last⟩
  · rw [none] at shows
    rw [List.getLast?_eq_none_iff.mp none]
    exact shows
  · rw [last] at shows
    obtain ⟨earlier, rfl⟩ := List.getLast?_eq_some_iff.mp last
    simpa [awaiting, retries, Shows] using shows

section Shows
variable (shows : Shows isLive calls.getLast? status) (exclusive : ∀ status, isLive status → status.isLive = true)
include shows exclusive

private theorem Shows.isLive_iff : isLive status ↔ IsHeard calls .opened := by
  have dead (other : status.isLive = false) : ¬ isLive status := fun alive => by
    simp [exclusive status alive] at other
  unfold Shows at shows
  unfold IsHeard
  split at shows <;> rename_i last <;> simp only [last]
  · exact iff_of_false (dead (by rw [shows]; rfl)) (by simp)
  · exact iff_of_true shows (by simp)
  · exact iff_of_true shows (by simp)
  · exact iff_of_false (dead (by rw [shows]; rfl)) (by simp)
  · exact iff_of_false (dead (by rw [shows]; rfl)) (by simp)

private theorem Shows.eq_reconnecting_iff (attempt : Nat) :
    status = .reconnecting attempt ↔ IsHeard calls (.reconnecting attempt) := by
  have other (alive : isLive status) : status ≠ .reconnecting attempt := by
    rintro rfl
    cases exclusive _ alive
  unfold Shows at shows
  unfold IsHeard
  split at shows <;> rename_i last <;> simp only [last]
  · simp [shows]
  · simp [other shows]
  · simp [other shows]
  · simp [shows]
  · simp [shows]

private theorem Shows.eq_disconnected_iff (attempts : Nat) :
    status = .disconnected ↔ IsHeard calls (.closed (.exhausted attempts)) := by
  have other (alive : isLive status) : status ≠ .disconnected := by
    rintro rfl
    cases exclusive _ alive
  unfold Shows at shows
  unfold IsHeard
  split at shows <;> rename_i last <;> simp only [last]
  · simp [shows]
  · simp [other shows]
  · simp [other shows]
  · simp [shows]
  · simp [shows]

/-- As long as the consumer has not closed the stream, its status goes with the state exactly if the handler has heard
of the state. -/
private theorem Shows.corresponds_iff (pending : state = .connecting → IsPending calls)
    (unclosed : state ≠ .closed .explicit) : Corresponds isLive calls state status ↔ IsHeard calls state := by
  cases state with
  | connecting => exact iff_of_true (awaiting_of_isPending shows (pending rfl)) trivial
  | opened => exact shows.isLive_iff exclusive
  | reconnecting attempt => exact shows.eq_reconnecting_iff exclusive attempt
  | closed reason =>
    cases reason with
    | explicit => exact absurd rfl unclosed
    | remote | transport => exact Iff.rfl
    | exhausted attempts => exact shows.eq_disconnected_iff exclusive attempts

end Shows

namespace Link

private theorem Stands.isUnspent (stands : link.Stands state) (running : state.isClosed = false) : link.IsUnspent := by
  intro closed
  rcases stands with explicit | same
  · exact explicit
  · rw [same, running] at closed
    cases closed

private theorem Stands.ne_connecting (stands : link.Stands state) (other : state ≠ .connecting) :
    link.state ≠ .connecting := by
  rcases stands with explicit | same
  · simp [explicit]
  · rwa [same]

private theorem IsUnspent.setState (unspent : link.IsUnspent) (state : State) : (link.setState state).Stands state := by
  cases closed : link.state.isClosed with
  | true =>
    rw [setState_of_isClosed closed]
    exact .inl (unspent closed)
  | false => exact .inr (setState_of_not_isClosed closed state)

end Link

namespace AgreesAt

/-- Wherever the driver waits the handler has heard of the state, unless it is gone and the driver has ended. -/
private theorem isHeard (agrees : AgreesAt calls link driver.point) (waiting : driver.isWaiting = true)
    (held : driver.point = .finished → link.attached = true) : IsHeard calls link.state := by
  unfold Driver.isWaiting at waiting
  cases point : driver.point with
  | starting | accepted | greeting | delivering | dropping | lost | retrying | abandoning =>
    simp [point] at waiting
  | connecting =>
    rw [point] at agrees
    rcases agrees with same | same <;> rw [same] <;> trivial
  | reading =>
    rw [point] at agrees
    obtain ⟨same | same, heard⟩ := agrees
    · rw [same]
      trivial
    · rwa [same]
  | waiting =>
    rw [point] at agrees
    obtain ⟨attempt, same | same, heard⟩ := agrees
    · rw [same]
      trivial
    · rwa [same]
  | finished =>
    rw [point] at agrees
    rcases agrees with gone | heard
    · simp [held point] at gone
    · exact heard

private theorem receive (agrees : AgreesAt calls link driver.point) (signal : Signal) :
    AgreesAt calls link (driver.receive signal).point := by
  have ended (waiting : driver.isWaiting = true) (unfinished : driver.point ≠ .finished) :
      AgreesAt calls link .finished :=
    .inr (agrees.isHeard waiting fun finished => absurd finished unfinished)
  unfold Driver.isWaiting at ended
  unfold Driver.receive
  cases point : driver.point with
  | connecting dialled =>
    rw [point] at agrees
    have stop := ended (by rw [point]) (by simp [point])
    have lost := Link.Stands.isUnspent agrees rfl
    cases dialled <;> cases signal <;> first | exact agrees | exact stop | exact lost
  | reading =>
    rw [point] at agrees
    have stop := ended (by rw [point]) (by simp [point])
    cases signal <;> first | exact agrees | exact stop | exact ⟨agrees.1, by simp⟩
  | waiting delay =>
    rw [point] at agrees
    have stop := ended (by rw [point]) (by simp [point])
    obtain ⟨attempt, stands, heard⟩ := agrees
    have start : AgreesAt calls link .starting := ⟨stands.isUnspent rfl, .inr ⟨attempt, heard⟩⟩
    cases signal <;> first | exact start | exact stop | exact ⟨attempt, stands, heard⟩
  | starting | accepted | greeting | delivering | dropping | lost | retrying | abandoning | finished =>
    rw [point] at agrees
    exact agrees

/-- A close that sets the state leaves a state that is final, or one that the handler need not hear of. -/
private theorem conclude (agrees : AgreesAt calls link point) :
    AgreesAt calls (link.setState (.closed .explicit)) point := by
  cases closed : link.state.isClosed with
  | true => rwa [Link.setState_of_isClosed closed]
  | false =>
    have explicit := Link.setState_of_not_isClosed closed (.closed .explicit)
    have stands (state : State) : (link.setState (.closed .explicit)).Stands state := .inl explicit
    cases point with
    | starting => exact ⟨fun _ => explicit, agrees.2⟩
    | connecting | accepted | greeting | retrying | abandoning => exact stands _
    | reading | delivering => exact ⟨stands _, agrees.2⟩
    | dropping => exact ⟨stands _, agrees.2⟩
    | lost => exact fun _ => explicit
    | waiting =>
      obtain ⟨attempt, -, heard⟩ := agrees
      exact ⟨attempt, stands _, heard⟩
    | finished => exact .inr (by rw [explicit]; trivial)

private theorem detach (agrees : AgreesAt calls link point) : AgreesAt calls link.detach point := by
  cases point with
  | finished => exact .inl rfl
  | _ => exact agrees

private theorem signalStop (agrees : AgreesAt calls link point) : AgreesAt calls link.signalStop point := by
  cases point <;> exact agrees

end AgreesAt

namespace Display.Tracks
variable {next : Point} {callback : Callback}

private theorem tell (tracks : Tracks display calls link feed driver.point) (opened : link.state ≠ .connecting)
    (shows : Shows display.isLive (some callback) (display.shown (display.react feed callback).2))
    (told : AgreesAt (calls ++ [callback]) link next) :
    Tracks display (calls ++ (driver.tell link callback next).2.2) (driver.tell link callback next).2.1
      (display.after feed (driver.tell link callback next).2.2) (driver.tell link callback next).1.point := by
  unfold Driver.tell
  split
  · refine ⟨?_, fun connecting => absurd connecting opened, told⟩
    simpa [Display.after] using shows
  · rename_i gone
    rw [List.append_nil]
    exact ⟨tracks.shows, tracks.pending, .inl (by simpa using gone)⟩

private theorem set (tracks : Tracks display calls link feed point) (pending : state = .connecting → IsPending calls)
    (agrees : AgreesAt calls (link.setState state) next) :
    Tracks display (calls ++ []) (link.setState state) (display.after feed []) next := by
  rw [List.append_nil]
  refine ⟨tracks.shows, fun connecting => ?_, agrees⟩
  unfold Link.setState at connecting
  split at connecting
  · exact tracks.pending connecting
  · exact pending connecting

/-- A step of the driver sets the state or calls the handler. -/
private theorem advance (tracks : Tracks display calls link feed driver.point) (busy : driver.isWaiting = false) :
    Tracks display (calls ++ (driver.advance link).2.2) (driver.advance link).2.1
      (display.after feed (driver.advance link).2.2) (driver.advance link).1.point := by
  have agrees := tracks.agrees
  cases point : driver.point with
  | connecting | reading | waiting | finished => simp [Driver.isWaiting, point] at busy
  | starting =>
    rw [point] at agrees
    obtain ⟨unspent, pending⟩ := agrees
    simp only [Driver.advance, point]
    exact tracks.set (fun _ => pending) (unspent.setState .connecting)
  | accepted =>
    rw [point] at agrees
    simp only [Driver.advance, point]
    exact tracks.set (by simp) ((agrees.isUnspent rfl).setState .opened)
  | greeting =>
    rw [point] at agrees
    simp only [Driver.advance, point]
    exact tracks.tell (agrees.ne_connecting (by simp)) (display.opened feed) ⟨agrees, .inl (by simp)⟩
  | delivering payload =>
    rw [point] at agrees
    obtain ⟨stands, heard⟩ := agrees
    simp only [Driver.advance, point]
    have live := (tracks.shows.isLive_iff display.isLive_of).mpr heard
    exact tracks.tell (stands.ne_connecting (by simp)) (display.message feed payload live)
      ⟨stands, .inr ⟨payload, by simp⟩⟩
  | dropping reason =>
    rw [point] at agrees
    obtain ⟨stands, caused⟩ := agrees
    simp only [Driver.advance, point]
    refine tracks.tell (stands.ne_connecting (by simp)) ?_ (stands.isUnspent rfl)
    rw [Shows, display.closed]
    cases reason <;> first | rfl | exact absurd rfl caused
  | lost =>
    rw [point] at agrees
    cases decided : driver.reconnector.failed with
    | mk decision reconnector =>
      cases decision with
      | retry attempt delay =>
        simp only [Driver.advance, point, decided]
        exact tracks.set (by simp) (Link.IsUnspent.setState agrees (.reconnecting attempt))
      | giveUp attempts =>
        simp only [Driver.advance, point, decided]
        exact tracks.set (by simp) (Link.IsUnspent.setState agrees (.closed (.exhausted attempts)))
  | retrying attempt delay =>
    rw [point] at agrees
    simp only [Driver.advance, point]
    exact tracks.tell (agrees.ne_connecting (by simp)) (display.reconnecting feed attempt)
      ⟨attempt, agrees, by simp [IsHeard]⟩
  | abandoning attempts =>
    rw [point] at agrees
    simp only [Driver.advance, point]
    refine tracks.tell (agrees.ne_connecting (by simp)) (display.closed feed _) (.inr ?_)
    rcases agrees with same | same <;> rw [same]
    · trivial
    · exact ⟨.exhausted attempts, by simp⟩

end Display.Tracks

theorem Live.run_moveOn (react : Feed → Callback → Bool × Feed) (change : Run → Run) (live : Live Feed) :
    (live.moveOn react change).run = change live.run := rfl

theorem Live.callbacksSince_eq {before after : Run} (grown : after.calls = before.calls ++ calls) :
    Live.callbacksSince before after = calls := by
  have dropped : after.calls.drop before.calls.length = calls := by rw [grown, List.drop_left]
  rw [← dropped]
  simp [Live.callbacksSince, Run.calls, List.drop_reverse, List.map_take]

theorem Live.callbacksSince_of_silent {before after : Run} (silent : after.calls = before.calls) :
    Live.callbacksSince before after = [] :=
  Live.callbacksSince_eq (by rw [silent, List.append_nil])

theorem Run.upcoming_ne_stop {outlook ahead : Outlook}
    (heard : Run.upcoming outlook = some (due, signal, ahead)) : signal ≠ .stop := by
  cases outlook with
  | idle => cases heard
  | wakes due =>
    cases heard
    simp
  | connects due outcome =>
    cases outcome <;> cases heard <;> simp
  | serves since events hold =>
    change Run.nextEvent since hold events = _ at heard
    induction events generalizing since with
    | nil =>
      cases hold <;> cases heard
      simp
    | cons event rest ih =>
      cases event with
      | message payload | fail error =>
        cases heard
        simp
      | wait duration => exact ih _ heard

namespace Display
variable {live opened : Live Feed} {next : Run} {move : Move} {change : Run → Run}

theorem feed_moveOn (change : Run → Run) (grown : (change live.run).calls = live.run.calls ++ calls) :
    (live.moveOn display.react change).feed = display.after live.feed calls := by
  rw [Live.moveOn, Live.callbacksSince_eq grown]
  rfl

theorem feed_moveOn_of_silent (silent : (change live.run).calls = live.run.calls) :
    (live.moveOn display.react change).feed = live.feed := by
  have grown : (change live.run).calls = live.run.calls ++ [] := by rw [silent, List.append_nil]
  exact feed_moveOn change grown

private theorem Tracks.silent (tracks : Tracks display live.run.calls live.run.link live.feed live.run.driver.point)
    (silent : next.calls = live.run.calls)
    (pending : next.link.state = .connecting → live.run.link.state = .connecting)
    (agrees : AgreesAt live.run.calls next.link next.driver.point) :
    let after := live.moveOn display.react fun _ => next
    Tracks display after.run.calls after.run.link after.feed after.run.driver.point := by
  intro after
  have kept : after.feed = live.feed := feed_moveOn_of_silent silent
  rw [kept]
  simp only [after, Live.moveOn, silent]
  exact ⟨tracks.shows, fun connecting => tracks.pending (pending connecting), agrees⟩

/-- What is known of a stream stays known whatever move comes next. -/
private theorem Tracks.perform
    (tracks : Tracks display live.run.calls live.run.link live.feed live.run.driver.point)
    (performed : live.run.perform move = some next) :
    let after := live.moveOn display.react fun _ => next
    Tracks display after.run.calls after.run.link after.feed after.run.driver.point := by
  intro after
  cases move with
  | drive =>
    simp only [Run.perform, Option.ite_none_left_eq_some, Option.some.injEq] at performed
    obtain ⟨busy, rfl⟩ := performed
    have told : after.feed = display.after live.feed (live.run.driver.advance live.run.link).2.2 :=
      feed_moveOn (fun _ => live.run.advance) (Run.calls_advance live.run)
    rw [told]
    simp only [after, Live.moveOn, Run.calls_advance]
    exact tracks.advance (by simpa using busy)
  | dial | stop =>
    simp only [Run.perform, Option.ite_none_right_eq_some, Option.some.injEq] at performed
    obtain ⟨-, rfl⟩ := performed
    exact tracks.silent rfl id (tracks.agrees.receive _)
  | hear =>
    simp only [Run.perform, Option.ite_none_right_eq_some, Option.map_eq_some_iff] at performed
    obtain ⟨-, ⟨due, signal, outlook⟩, -, rfl⟩ := performed
    exact tracks.silent rfl id (tracks.agrees.receive signal)
  | detach =>
    cases performed
    exact tracks.silent rfl id tracks.agrees.detach
  | conclude =>
    cases performed
    refine tracks.silent rfl (fun connecting => ?_) tracks.agrees.conclude
    by_contra other
    unfold Link.setState at connecting
    split at connecting
    · exact other connecting
    · cases connecting
  | signalStop =>
    cases performed
    exact tracks.silent rfl id tracks.agrees.signalStop

private theorem Reached.tracks (reached : Reached display opened live)
    (start : Tracks display opened.run.calls opened.run.link opened.feed opened.run.driver.point) :
    Tracks display live.run.calls live.run.link live.feed live.run.driver.point := by
  induction reached with
  | start => exact start
  | moved _ performed tracks => exact tracks.perform performed
  | passed _ now tracks => exact tracks
  | @adjusted live change _ adjusts tracks =>
    exact ⟨by rw [display.adjusted live.feed change adjusts]; exact tracks.shows, tracks.pending, tracks.agrees⟩

private theorem Tracks.start (policy : Policy) (scripts : List Script) {feed : Feed}
    (shown : display.shown feed = .connecting) :
    let run := Run.start policy scripts
    Tracks display run.calls run.link feed run.driver.point :=
  ⟨shown, fun _ => .inl rfl, by simp [Link.IsUnspent, Run.start, State.isClosed], .inl rfl⟩

theorem moveOn_moveOn {middle last : Run} (first : live.run.calls <+: middle.calls)
    (second : middle.calls <+: last.calls) :
    (live.moveOn display.react fun _ => middle).moveOn display.react (fun _ => last) =
      live.moveOn display.react fun _ => last := by
  obtain ⟨earlier, first⟩ := first
  obtain ⟨later, second⟩ := second
  have whole : last.calls = live.run.calls ++ (earlier ++ later) := by
    rw [← second, ← first, List.append_assoc]
  simp only [Live.moveOn, Live.callbacksSince_eq first.symm, Live.callbacksSince_eq second.symm,
    Live.callbacksSince_eq whole, List.foldl_append]

theorem Reached.follow {moves : List Move} {last : Run} (reached : Reached display opened live)
    (followed : live.run.follow moves = some last) :
    Reached display opened (live.moveOn display.react fun _ => last) := by
  induction moves generalizing live with
  | nil =>
    cases followed
    have silent := Live.callbacksSince_eq (List.append_nil live.run.calls).symm
    simpa only [Live.moveOn, silent, List.foldl_nil] using reached
  | cons move rest ih =>
    obtain ⟨next, performed, later⟩ := Option.bind_eq_some_iff.mp followed
    have rest := ih (reached.moved performed) later
    rwa [moveOn_moveOn (Run.calls_prefix_of_perform performed) (Run.calls_prefix_of_follow later)] at rest

theorem Reached.runTo (reached : Reached display opened live) (limit : Nat) :
    Reached display opened (live.moveOn display.react (Run.runTo limit)) := by
  obtain ⟨moves, -, followed⟩ := Run.exists_follow_iterate limit live.run.budget live.run
  exact (reached.follow followed).passed (max live.run.now limit)

/-- A close is three moves, with none in between here. -/
theorem Reached.close (reached : Reached display opened live) :
    Reached display opened (live.moveOn display.react Run.close) :=
  reached.follow (Run.follow_close live.run)

private theorem Reached.isProper (reached : Reached display opened live) (start : opened.run.link.state.IsProper) :
    live.run.link.state.IsProper := by
  induction reached with
  | start => exact start
  | moved _ performed proper => exact Run.perform_isProper performed proper
  | passed _ now proper => exact proper
  | adjusted _ adjusts proper => exact proper

private theorem Reached.statusFollows (reached : Reached display opened live)
    (begun : ∃ address feed, opened = { address, run := .start policy scripts, feed } ∧
      display.shown feed = .connecting) :
    StatusFollows display.isLive live.run (live.statusOf display.shown) := by
  obtain ⟨address, feed, rfl, shown⟩ := begun
  have tracks := reached.tracks (Tracks.start policy scripts shown)
  have proper := reached.isProper (by simp [State.IsProper, Run.start])
  refine ⟨?_, fun waiting unheard => ?_⟩
  · by_cases closed : live.run.link.state = .closed .explicit
    · rw [closed]
      exact iff_of_true (if_pos closed) trivial
    · rw [Live.statusOf, if_neg closed]
      exact tracks.shows.corresponds_iff display.isLive_of tracks.pending closed
  · have gone : live.run.driver.point = .finished ∧ live.run.link.attached = false := by
      by_contra held
      refine unheard (tracks.agrees.isHeard waiting fun finished => ?_)
      simpa [finished] using held
    refine ⟨gone.1, gone.2, fun closed => ?_⟩
    cases state : live.run.link.state with
    | connecting | opened | reconnecting => simp [state, State.isClosed] at closed
    | closed reason =>
      obtain rfl | ⟨attempts, rfl⟩ := proper reason state
      · rw [state] at unheard
        exact absurd trivial unheard
      · exact ⟨attempts, rfl⟩

/-- A close while the driver gives up: the state is closed already, the handler is not told, and the status stays what
it was. -/
theorem unheard_of_close (giving_up : live.run.driver.point = .abandoning attempts)
    (exhausted : live.run.link.state = .closed (.exhausted attempts)) :
    let ended := (live.moveOn display.react Run.close).moveOn display.react Run.advance
    ended.run.driver.point = .finished ∧ ended.run.link.state = .closed (.exhausted attempts) ∧
      ended.statusOf display.shown = display.shown live.feed := by
  intro ended
  have link : live.run.close.link = { live.run.link with attached := false, stopped := true } := by
    simp [Run.close, Link.close, Link.detach, Link.signalStop, Link.setState, exhausted, State.isClosed]
  have last : live.run.close.driver.advance live.run.close.link =
      ({ live.run.driver with point := .finished }, live.run.close.link, []) := by
    rw [link]
    simp [Run.close, Driver.advance, giving_up, Driver.tell]
  have finished : live.run.close.advance.driver.point = .finished := by rw [Run.advance, last]
  have state : live.run.close.advance.link.state = .closed (.exhausted attempts) := by
    rw [Run.advance, last, link]
    exact exhausted
  have silent : live.run.close.advance.calls = live.run.close.calls := by
    rw [Run.calls_advance, last, List.append_nil]
  refine ⟨finished, state, ?_⟩
  have unclosed : ended.run.link.state ≠ .closed .explicit := by simp [ended, Live.run_moveOn, state]
  rw [Live.statusOf, if_neg unclosed, feed_moveOn_of_silent silent, feed_moveOn_of_silent rfl]

end Display

theorem ConnectionStream.eq_of_openAt [Url.Idna] {stream : ConnectionStream}
    (begun : openAt endpoint withoutConnections policy scripts = .ok stream) :
    ∃ address, stream = { address, run := .start policy scripts, feed := {} } := by
  unfold openAt at begun
  cases parsed : connectionAddress endpoint withoutConnections <;> rw [parsed] at begun <;> cases begun
  exact ⟨_, rfl⟩

theorem LogStream.eq_of_openAt [Url.Idna] {stream : LogStream}
    (begun : openAt endpoint capacity policy scripts = .ok stream) :
    ∃ address, stream = { address, run := .start policy scripts, feed := .empty capacity } := by
  unfold openAt at begun
  cases parsed : logAddress endpoint with
  | error error =>
    rw [parsed] at begun
    cases begun
  | ok address =>
    rw [parsed, LogFeed.withCapacity?, EventBuffer.withCapacity?] at begun
    split at begun
    · cases begun
      exact ⟨address, rfl⟩
    · cases begun

/-- Whatever the policy, the connects, the payloads and the moves of a close are: the status of a stream says what its
state is exactly if the handler has heard of the state, and where the driver waits or has finished this can only be
missing if a close took the handler away before the driver could tell it. -/
theorem status_corresponds_iff_heard [Url.Idna] (policy : Policy) (scripts : List Script) :
    (∀ endpoint withoutConnections opened stream,
      ConnectionStream.openAt endpoint withoutConnections policy scripts = .ok opened →
      ConnectionFeed.display.Reached opened stream →
      StatusFollows (fun status => status = .connected ∨ status = .stale) stream.run
        (ConnectionStream.status stream)) ∧
    (∀ endpoint capacity opened stream,
      LogStream.openAt endpoint capacity policy scripts = .ok opened →
      LogFeed.display.Reached opened stream →
      StatusFollows (fun status => status = .connected) stream.run (LogStream.status stream)) := by
  constructor
  · intro endpoint withoutConnections opened stream begun reached
    obtain ⟨address, rfl⟩ := ConnectionStream.eq_of_openAt begun
    exact reached.statusFollows ⟨address, _, rfl, rfl⟩
  · intro endpoint capacity opened stream begun reached
    obtain ⟨address, rfl⟩ := LogStream.eq_of_openAt begun
    exact reached.statusFollows ⟨address, _, rfl, rfl⟩

/-- A connection ends at once and is being retried; the log stream is closed before its retry. -/
theorem status_corresponds_retry :
    let scripts : List Script := [⟨0, .serve [] false⟩, ⟨7, .refuse (.connect "down")⟩]
    (∃ opened stream, ConnectionStream.openAt "http://a" false ⟨5, 1⟩ scripts = .ok opened ∧
      ConnectionFeed.display.Reached opened stream ∧ stream.run.driver.isWaiting = true ∧
      stream.run.link.state = .connecting ∧ ConnectionStream.status stream = .reconnecting 1) ∧
    (∃ opened stream, LogStream.openAt "http://a" 3 ⟨5, 1⟩ scripts = .ok opened ∧
      LogFeed.display.Reached opened stream ∧ stream.run.driver.isWaiting = true ∧
      stream.run.link.state = .closed .explicit ∧ LogStream.status stream = .closed) := by
  intro scripts
  constructor
  · obtain ⟨opened, begun⟩ :
      ∃ opened, ConnectionStream.openAt "http://a" false ⟨5, 1⟩ scripts = .ok opened := ⟨_, rfl⟩
    obtain ⟨stream, moved⟩ : ∃ stream, opened.moveOn (Run.runTo 5) = stream := ⟨_, rfl⟩
    have reached : ConnectionFeed.display.Reached opened stream := moved ▸ Display.Reached.start.runTo 5
    have run : stream.run = (Run.start ⟨5, 1⟩ scripts).runTo 5 := by
      obtain ⟨address, rfl⟩ := ConnectionStream.eq_of_openAt begun
      rw [← moved, ConnectionStream.moveOn, Live.run_moveOn]
    have waiting : stream.run.driver.isWaiting = true := by rw [run]; decide +kernel
    have connecting : stream.run.link.state = .connecting := by rw [run]; decide +kernel
    have retried : awaiting stream.run.calls = .reconnecting 1 := by rw [run]; decide +kernel
    have follows := (status_corresponds_iff_heard ⟨5, 1⟩ scripts).1 _ _ _ _ begun reached
    have shown := follows.corresponds_iff.mpr (by rw [connecting]; trivial)
    rw [connecting] at shown
    exact ⟨opened, stream, begun, reached, waiting, connecting, shown.trans retried⟩
  · obtain ⟨opened, begun⟩ :
      ∃ opened, LogStream.openAt "http://a" 3 ⟨5, 1⟩ scripts = .ok opened := ⟨_, rfl⟩
    obtain ⟨stream, moved⟩ : ∃ stream, opened.moveOn (Run.runTo 0) = stream := ⟨_, rfl⟩
    have run : stream.run = (Run.start ⟨5, 1⟩ scripts).runTo 0 := by
      obtain ⟨address, rfl⟩ := LogStream.eq_of_openAt begun
      rw [← moved, LogStream.moveOn, Live.run_moveOn]
    have reached : LogFeed.display.Reached opened (stream.moveOn Run.close) :=
      (moved ▸ Display.Reached.start.runTo 0 : LogFeed.display.Reached opened stream).close
    have waiting : (stream.moveOn Run.close).run.driver.isWaiting = true := by
      rw [LogStream.moveOn, Live.run_moveOn, run]
      decide +kernel
    have explicit : (stream.moveOn Run.close).run.link.state = .closed .explicit := by
      rw [LogStream.moveOn, Live.run_moveOn, run]
      decide +kernel
    have follows := (status_corresponds_iff_heard ⟨5, 1⟩ scripts).2 _ _ _ _ begun reached
    have shown := follows.corresponds_iff.mpr (by rw [explicit]; trivial)
    rw [explicit] at shown
    exact ⟨opened, _, begun, reached, waiting, explicit, shown⟩

/-- Both connects are refused, and the close comes when the driver has set the state and not told the handler yet: the
stream stays exhausted, and its status stays that of a retry. -/
theorem status_of_close_while_giving_up :
    ∃ opened stream, ConnectionStream.openAt "http://a" false ⟨5, 1⟩ [] = .ok opened ∧
      ConnectionFeed.display.Reached opened stream ∧ stream.run.driver.point = .finished ∧
      stream.run.link.state = .closed (.exhausted 1) ∧ ConnectionStream.status stream = .reconnecting 1 ∧
      ¬ Corresponds (fun status => status = .connected ∨ status = .stale) stream.run.calls
        stream.run.link.state (ConnectionStream.status stream) := by
  obtain ⟨opened, begun⟩ : ∃ opened, ConnectionStream.openAt "http://a" false ⟨5, 1⟩ [] = .ok opened := ⟨_, rfl⟩
  obtain ⟨address, rfl⟩ := ConnectionStream.eq_of_openAt begun
  obtain ⟨last, followed, giving_up, exhausted, called⟩ : ∃ last,
      (Run.start ⟨5, 1⟩ []).follow
          [.drive, .dial, .hear, .drive, .drive, .hear, .drive, .dial, .hear, .drive] = some last ∧
        last.driver.point = .abandoning 1 ∧ last.link.state = .closed (.exhausted 1) ∧
        last.calls = [.reconnecting 1] := ⟨_, rfl, rfl, rfl, rfl⟩
  let opened : ConnectionStream := { address, run := .start ⟨5, 1⟩ [], feed := {} }
  let stream : ConnectionStream := Live.moveOn ConnectionFeed.display.react (fun _ => last) opened
  have heard : stream.feed = ConnectionFeed.display.after opened.feed [.reconnecting 1] :=
    Display.feed_moveOn _ called
  let ended : ConnectionStream := (stream.moveOn Run.close).moveOn Run.advance
  obtain ⟨finished, exhausted, shown⟩ : ended.run.driver.point = .finished ∧
      ended.run.link.state = .closed (.exhausted 1) ∧ ConnectionStream.status ended = _ :=
    ConnectionFeed.display.unheard_of_close giving_up exhausted
  have busy : (stream.moveOn Run.close).run.driver.isWaiting = false := by
    rw [Driver.isWaiting, show (stream.moveOn Run.close).run.driver.point = _ from giving_up]
  have driven : (stream.moveOn Run.close).run.perform .drive = some (stream.moveOn Run.close).run.advance :=
    if_neg (by simp [busy])
  have reached : ConnectionFeed.display.Reached opened ended :=
    (Display.Reached.start.follow followed).close.moved driven
  rw [heard] at shown
  refine ⟨opened, ended, begun, reached, finished, exhausted, shown, ?_⟩
  rw [exhausted, shown]
  rintro ⟨⟩

end ProxyWatch.Stream
