import ProxyWatch.Proofs.Stream.CallbackTrace
import ProxyWatch.Proofs.Stream.LastConnect

/-! When a stream that is never closed connects.

The instants are told from the scripts alone: the first connect is made at once, and each later one an
interval after the one before it had failed or its connection had ended. A run keeps to them in every
step, and no connect is late in virtual time. -/
namespace ProxyWatch.Stream

/-- The script of a connect. Connects beyond the last script are refused at once. -/
def scriptAt (scripts : List Script) (n : Nat) : Script := (Run.nextScript (scripts.drop n)).1

/-- How long an open connection lasts, unless it stays open. -/
def lifetime? (hold : Bool) : List Event → Option Nat
  | [] => if hold then none else some 0
  | .wait duration :: rest => (lifetime? hold rest).map (duration + ·)
  | .message _ :: rest => lifetime? hold rest
  | .fail _ :: _ => some 0

/-- How long it takes from a connect to its failure or to the end of its connection. -/
def Script.duration? (script : Script) : Option Nat :=
  match script.outcome with
  | .refuse _ => some script.delay
  | .serve events hold => (lifetime? hold events).map (script.delay + ·)

/-- When each connect starts. There is none after a connection that stays open, and none when the
retries are spent. -/
def startAt? (policy : Policy) (scripts : List Script) : Nat → Option Nat
  | 0 => some 0
  | n + 1 =>
    if (storyOf policy scripts (n + 1)).isOver then none
    else do pure ((← startAt? policy scripts n) + (← (scriptAt scripts n).duration?) + policy.interval)

/-- When each connect has failed or its connection has ended. -/
def overAt? (policy : Policy) (scripts : List Script) (n : Nat) : Option Nat := do
  pure ((← startAt? policy scripts n) + (← (scriptAt scripts n).duration?))

/-- How long some connects in a row take, without the waits between them. -/
def durations (scripts : List Script) (first : Nat) : Nat → Nat
  | 0 => 0
  | n + 1 => durations scripts first n + (scriptAt scripts (first + n)).duration?.getD 0

/-- When what is under way will be over. -/
def Outlook.over? : Outlook → Option Nat
  | .idle => none
  | .connects due (.refuse _) => some due
  | .connects since (.serve events hold) | .serves since events hold => (lifetime? hold events).map (since + ·)
  | .wakes due => some due

/-- What is under way has not been passed by. -/
def Outlook.IsFrom (now : Nat) : Outlook → Prop
  | .idle => True
  | .connects due _ | .wakes due => now ≤ due
  | .serves since _ _ => since = now

/-- The instant that is known by where the driver stands: when it connects next, or when its last
connect is over. -/
def IsTimed (policy : Policy) (scripts : List Script) (connects now : Nat) (outlook : Outlook) :
    Point → Prop
  | .starting | .connecting false => startAt? policy scripts connects = some now
  | .waiting _ => startAt? policy scripts connects = outlook.over?
  | .connecting true | .accepted | .greeting | .reading | .delivering _ =>
    ∃ last, connects = last + 1 ∧ overAt? policy scripts last = outlook.over?
  | .dropping _ | .lost | .retrying _ _ | .abandoning _ | .finished =>
    ∃ last, connects = last + 1 ∧ overAt? policy scripts last = some now

/-- The state is closed as soon as the retries are spent. -/
def IsClosedAt (policy : Policy) (state : State) : Point → Prop
  | .abandoning _ | .finished => state = .closed (.exhausted policy.maxAttempts)
  | _ => state.isClosed = false

variable {policy : Policy} {scripts : List Script} {now next n m : Nat}

theorem startAt?_succ (left : (storyOf policy scripts (n + 1)).isOver = false) :
    startAt? policy scripts (n + 1) = (overAt? policy scripts n).map (· + policy.interval) := by
  rw [startAt?, left, overAt?]
  cases startAt? policy scripts n <;> cases (scriptAt scripts n).duration? <;> rfl

theorem startAt?_of_isOver (isOver : (storyOf policy scripts (n + 1)).isOver = true) :
    startAt? policy scripts (n + 1) = none := by
  rw [startAt?, isOver, if_pos rfl]

theorem startAt?_succ_eq_some (later : startAt? policy scripts (n + 1) = some next) :
    ∃ start duration, startAt? policy scripts n = some start ∧
      (scriptAt scripts n).duration? = some duration ∧ overAt? policy scripts n = some (start + duration) ∧
      next = start + duration + policy.interval := by
  cases isOver : (storyOf policy scripts (n + 1)).isOver with
  | true => simp [startAt?_of_isOver isOver] at later
  | false =>
    rw [startAt?_succ isOver, overAt?] at later
    obtain ⟨finish, found, rfl⟩ := Option.map_eq_some_iff.mp later
    obtain ⟨start, started, found⟩ := Option.bind_eq_some_iff.mp found
    obtain ⟨duration, lasts, same⟩ := Option.bind_eq_some_iff.mp found
    cases same
    exact ⟨start, duration, started, lasts, by simp [overAt?, started, lasts], rfl⟩

theorem startAt?_add (count : Nat) (later : startAt? policy scripts (n + count) = some next) :
    ∃ start, startAt? policy scripts n = some start ∧
      next = start + count * policy.interval + durations scripts n count := by
  induction count generalizing next with
  | zero => exact ⟨next, later, by simp [durations]⟩
  | succ count ih =>
    rw [← Nat.add_assoc] at later
    obtain ⟨middle, duration, before, lasts, -, rfl⟩ := startAt?_succ_eq_some later
    obtain ⟨start, started, rfl⟩ := ih before
    refine ⟨start, started, ?_⟩
    rw [durations, lasts, Option.getD_some, Nat.succ_mul]
    omega

theorem startAt?_of_le (earlier : m ≤ n) (later : startAt? policy scripts n = some next) :
    ∃ start ≤ next, startAt? policy scripts m = some start := by
  obtain ⟨count, rfl⟩ := Nat.exists_eq_add_of_le earlier
  obtain ⟨start, started, rfl⟩ := startAt?_add count later
  exact ⟨start, by omega, started⟩

/-- Every connect is over an interval before the next one, and so before all later ones. -/
theorem overAt?_of_lt (earlier : m < n) (later : startAt? policy scripts n = some next) :
    ∃ finish, overAt? policy scripts m = some finish ∧ finish + policy.interval ≤ next := by
  obtain ⟨following, before, started⟩ := startAt?_of_le earlier later
  obtain ⟨start, duration, -, -, finish, rfl⟩ := startAt?_succ_eq_some started
  exact ⟨_, finish, before⟩

private theorem overAt?_of_startAt? (started : startAt? policy scripts n = some now) :
    overAt? policy scripts n =
      (Outlook.connects (now + (scriptAt scripts n).delay) (scriptAt scripts n).outcome).over? := by
  rw [overAt?, started, Script.duration?]
  cases (scriptAt scripts n).outcome with
  | refuse error => rfl
  | serve events hold => cases lasts : lifetime? hold events <;> simp [Outlook.over?, lasts, Nat.add_assoc]

theorem over?_of_nextEvent {since due : Nat} {events : List Event} {hold : Bool} {signal : Signal}
    {outlook : Outlook} (heard : Run.nextEvent since hold events = some (due, signal, outlook)) :
    since ≤ due ∧
    ((∃ payload rest, signal = .message payload ∧ outlook = .serves due rest hold ∧
        (Outlook.serves since events hold).over? = outlook.over?) ∨
      ((signal = .ended ∨ ∃ error, signal = .failed error) ∧ outlook = .idle ∧
        (Outlook.serves since events hold).over? = some due)) := by
  induction events generalizing since with
  | nil =>
    cases hold with
    | true => simp [Run.nextEvent] at heard
    | false =>
      cases heard
      exact ⟨Nat.le_refl _, .inr ⟨.inl rfl, rfl, rfl⟩⟩
  | cons event rest ih =>
    cases event with
    | wait duration =>
      have shifted : (Outlook.serves since (.wait duration :: rest) hold).over? =
          (Outlook.serves (since + duration) rest hold).over? := by
        simp [Outlook.over?, lifetime?, Function.comp_def, Nat.add_assoc]
      obtain ⟨later, cases_⟩ := ih heard
      rw [shifted]
      exact ⟨by omega, cases_⟩
    | message payload =>
      cases heard
      exact ⟨Nat.le_refl _, .inl ⟨payload, rest, rfl, rfl, rfl⟩⟩
    | fail error =>
      cases heard
      exact ⟨Nat.le_refl _, .inr ⟨.inr ⟨error, rfl⟩, rfl, rfl⟩⟩

private theorem over?_of_nextEvent_none {since : Nat} {events : List Event} {hold : Bool}
    (quiet : Run.nextEvent since hold events = none) : lifetime? hold events = none := by
  induction events generalizing since with
  | nil =>
    cases hold with
    | true => rfl
    | false => cases quiet
  | cons event rest ih =>
    cases event with
    | wait duration => rw [lifetime?, ih quiet, Option.map_none]
    | message payload => cases quiet
    | fail error => cases quiet

theorem upcoming_of_over? {outlook : Outlook} {finish : Nat} (found : outlook.over? = some finish) :
    ∃ due signal ahead, Run.upcoming outlook = some (due, signal, ahead) ∧ due ≤ finish := by
  cases outlook with
  | idle => cases found
  | wakes due =>
    cases found
    exact ⟨_, _, _, rfl, Nat.le_refl _⟩
  | connects due outcome =>
    cases outcome with
    | refuse error =>
      cases found
      exact ⟨_, _, _, rfl, Nat.le_refl _⟩
    | serve events hold =>
      obtain ⟨duration, -, rfl⟩ := Option.map_eq_some_iff.mp found
      exact ⟨due, _, _, rfl, Nat.le_add_right _ _⟩
  | serves since events hold =>
    cases heard : Run.nextEvent since hold events with
    | none => simp [Outlook.over?, over?_of_nextEvent_none heard] at found
    | some coming =>
      obtain ⟨due, signal, ahead⟩ := coming
      refine ⟨due, signal, ahead, heard, ?_⟩
      obtain ⟨-, ⟨payload, rest, -, rfl, same⟩ | ⟨-, -, same⟩⟩ := over?_of_nextEvent heard
      · obtain ⟨duration, -, rfl⟩ := Option.map_eq_some_iff.mp (same.symm.trans found)
        exact Nat.le_add_right _ _
      · exact Nat.le_of_eq (Option.some.inj (same.symm.trans found))

section Steps
variable {driver : Driver} {outlook ahead : Outlook} {link : Link} {calls : List Callback} {story : Story}
  {connects due : Nat} {signal : Signal}

/-- A step of the driver's own takes no time. A retry that it schedules is an interval after the last
connect was over. -/
theorem Foretells.advance_isTimed (course : Foretells policy driver outlook calls story)
    (attached : link.attached = true) (busy : driver.isWaiting = false)
    (told : story = storyOf policy scripts connects)
    (timed : IsTimed policy scripts connects now outlook driver.point) :
    IsTimed policy scripts connects now
      (match (driver.advance link).1.point with
        | .waiting delay => .wakes (now + delay)
        | _ => outlook)
      (driver.advance link).1.point := by
  cases course with
  | undialled | dialled | reading | waiting | finished => cases busy
  | starting | accepted => exact timed
  | greeting | delivering | dropping | abandoning =>
    simp only [Driver.advance, Driver.tell, attached, if_true]
    exact timed
  | lost =>
    by_cases spent : policy.maxAttempts ≤ retriesSinceOpen calls
    all_goals
      simp only [Driver.advance, Reconnector.failed, spent, if_true, if_false]
      exact timed
  | retrying =>
    obtain ⟨last, rfl, finish⟩ := timed
    have retried : (storyOf policy scripts (last + 1)).isOver = false := by rw [← told]
    have next := startAt?_succ retried
    simp [Driver.advance, Driver.tell, attached, IsTimed, next, finish, Outlook.over?]

private theorem Foretells.advance_isClosedAt (course : Foretells policy driver outlook calls story)
    (within : driver.IsWithin) (attached : link.attached = true) (busy : driver.isWaiting = false)
    (state : IsClosedAt policy link.state driver.point) :
    IsClosedAt policy (driver.advance link).2.1.state (driver.advance link).1.point := by
  cases course with
  | undialled | dialled | reading | waiting | finished => cases busy
  | greeting | delivering | dropping | retrying | abandoning =>
    simp only [Driver.advance, Driver.tell, attached, if_true]
    exact state
  | starting | accepted =>
    simp only [Driver.advance, Link.setState_of_not_isClosed state]
    rfl
  | lost =>
    have within : retriesSinceOpen calls ≤ policy.maxAttempts := within
    by_cases spent : policy.maxAttempts ≤ retriesSinceOpen calls
    · have all : retriesSinceOpen calls = policy.maxAttempts := Nat.le_antisymm within spent
      simp [Driver.advance, Reconnector.failed, all, Link.setState_of_not_isClosed state, IsClosedAt]
    · simp only [Driver.advance, Reconnector.failed, spent, if_false, Link.setState_of_not_isClosed state]
      rfl

private theorem Foretells.hear_isTimed (course : Foretells policy driver outlook calls story)
    (heard : Run.upcoming outlook = some (due, signal, ahead)) (waiting : driver.isWaiting = true)
    (unfinished : driver.point ≠ .finished) (fresh : outlook.IsFrom now)
    (timed : IsTimed policy scripts connects now outlook driver.point) :
    now ≤ due ∧ ahead.IsFrom due ∧
      IsTimed policy scripts connects due ahead (driver.receive signal).point := by
  cases course with
  | starting | accepted | greeting | delivering | dropping | lost | retrying | abandoning => cases waiting
  | undialled => cases heard
  | finished => exact absurd rfl unfinished
  | dialled _ outcome =>
    obtain ⟨last, rfl, finish⟩ := timed
    cases outcome with
    | refuse error =>
      cases heard
      exact ⟨fresh, trivial, last, rfl, finish⟩
    | serve events hold =>
      cases heard
      exact ⟨fresh, rfl, last, rfl, finish⟩
  | waiting =>
    cases heard
    exact ⟨fresh, trivial, timed⟩
  | reading =>
    obtain ⟨last, rfl, finish⟩ := timed
    cases fresh
    obtain ⟨later, ⟨payload, rest, rfl, rfl, same⟩ | ⟨rfl | ⟨error, rfl⟩, rfl, same⟩⟩ :=
      over?_of_nextEvent heard
    · exact ⟨later, rfl, last, rfl, finish.trans same⟩
    · exact ⟨later, trivial, last, rfl, finish.trans same⟩
    · exact ⟨later, trivial, last, rfl, finish.trans same⟩

private theorem Foretells.hear_isClosedAt (course : Foretells policy driver outlook calls story)
    (heard : Run.upcoming outlook = some (due, signal, ahead)) (waiting : driver.isWaiting = true)
    (unfinished : driver.point ≠ .finished) {state : State}
    (closed : IsClosedAt policy state driver.point) :
    IsClosedAt policy state (driver.receive signal).point := by
  cases course with
  | starting | accepted | greeting | delivering | dropping | lost | retrying | abandoning => cases waiting
  | undialled => cases heard
  | finished => exact absurd rfl unfinished
  | dialled _ outcome => cases outcome <;> cases heard <;> exact closed
  | waiting =>
    cases heard
    exact closed
  | reading =>
    obtain ⟨-, ⟨payload, rest, rfl, -⟩ | ⟨rfl | ⟨error, rfl⟩, -⟩⟩ := over?_of_nextEvent heard <;> exact closed

private theorem Foretells.idle_of_undialled (course : Foretells policy driver outlook calls story)
    (undialled : driver.point = .connecting false) : outlook = .idle := by
  cases course with
  | undialled => rfl
  | _ => cases undialled

theorem Foretells.spent_of_abandoning (course : Foretells policy driver outlook calls story)
    (abandoning : driver.point = .abandoning attempts) :
    attempts = policy.maxAttempts ∧ story.isOver = true := by
  cases course with
  | abandoning =>
    cases abandoning
    exact ⟨rfl, rfl⟩
  | _ => cases abandoning

end Steps

/-- A run that is not closed, on its course and on time. -/
structure OnTime (policy : Policy) (scripts : List Script) (run : Run) : Prop
    extends OnCourse policy scripts run where
  fresh : run.outlook.IsFrom run.now
  timed : IsTimed policy scripts run.dials.length run.now run.outlook run.driver.point
  started : ∀ n < run.dials.length, startAt? policy scripts n = run.dials.reverse[n]?
  past : ∀ start ∈ run.dials, start ≤ run.now
  state : IsClosedAt policy run.link.state run.driver.point

namespace OnTime
variable {run last : Run} {move : Move} {moves : List Move} {limit : Nat}

theorem start (policy : Policy) (scripts : List Script) : OnTime policy scripts (Run.start policy scripts) where
  toOnCourse := .start policy scripts
  fresh := trivial
  timed := rfl
  started := nofun
  past := nofun
  state := rfl

theorem drive (known : OnTime policy scripts run) (busy : run.driver.isWaiting = false) :
    OnTime policy scripts run.advance := by
  refine ⟨known.toOnCourse.drive busy, ?_, ?_, known.started, known.past, ?_⟩
  · simp only [Run.advance]
    split
    · exact Nat.le_add_right _ _
    · exact known.fresh
  · exact known.course.advance_isTimed known.attached busy rfl known.timed
  · exact known.course.advance_isClosedAt known.within known.attached busy known.state

theorem dial (known : OnTime policy scripts run) (undialled : run.driver.point = .connecting false) :
    OnTime policy scripts run.dial := by
  have due : startAt? policy scripts run.dials.length = some run.now := by
    have timed := known.timed
    rwa [undialled] at timed
  refine ⟨known.toOnCourse.dial undialled, Nat.le_add_right _ _, ?_, ?_, ?_, ?_⟩
  · have script : (Run.nextScript run.scripts).1 = scriptAt scripts run.dials.length := by
      rw [known.ahead, scriptAt]
    simp only [Run.dial, Driver.receive, undialled, script]
    exact ⟨run.dials.length, rfl, overAt?_of_startAt? due⟩
  · intro n before
    simp only [Run.dial, List.length_cons, List.reverse_cons] at before ⊢
    obtain earlier | rfl := Nat.lt_succ_iff_lt_or_eq.mp before
    · rw [List.getElem?_append_left (by simpa using earlier)]
      exact known.started n earlier
    · simp [due]
  · intro start made
    obtain rfl | earlier := List.mem_cons.mp made
    · exact Nat.le_refl _
    · exact known.past start earlier
  · have state := known.state
    rw [undialled] at state
    simp only [Run.dial, Driver.receive, undialled]
    exact state

/-- A move of the driver keeps a run that is not closed on time. -/
theorem perform (known : OnTime policy scripts run) (driven : move.isClosing = false)
    (performed : run.perform move = some after) : OnTime policy scripts after := by
  have course := known.toOnCourse.perform driven performed
  obtain ⟨busy, rfl⟩ | ⟨undialled, rfl⟩ | ⟨waiting, unfinished, due, signal, outlook, heard, rfl⟩ :=
    Run.driven_cases known.running driven performed
  · exact known.drive busy
  · exact known.dial undialled
  · obtain ⟨later, fresh, timed⟩ :=
      known.course.hear_isTimed heard waiting unfinished known.fresh known.timed
    have reached : max run.now due = due := Nat.max_eq_right later
    refine ⟨course, ?_, ?_, known.started, fun start made => ?_, ?_⟩
    · simpa only [reached] using fresh
    · simpa only [reached] using timed
    · exact Nat.le_trans (known.past start made) (Nat.le_max_left _ _)
    · exact known.course.hear_isClosedAt heard waiting unfinished known.state

theorem follow (unclosed : Unclosed moves)
    (reached : (Run.start policy scripts).follow moves = some run) : OnTime policy scripts run :=
  Run.follow_invariant (OnTime policy scripts)
    (fun _ move _ member known performed => known.perform (unclosed move member) performed)
    (start policy scripts) reached

theorem finished_or_listening (running : run.link.stopped = false) (settled : run.step? limit = none) :
    run.driver.point = .finished ∨ run.isListening = true ∧
      ∀ due signal ahead, Run.upcoming run.outlook = some (due, signal, ahead) → limit < due := by
  by_cases finished : run.driver.point = .finished
  · exact .inl finished
  cases waiting : run.driver.isWaiting with
  | false => simp [Run.step?, waiting] at settled
  | true =>
    by_cases undialled : run.driver.point = .connecting false
    · simp [Run.step?, waiting, running, undialled] at settled
    · refine .inr ⟨(Run.isListening_iff run).mpr ⟨waiting, finished, undialled⟩, ?_⟩
      intro due signal ahead heard
      refine Nat.lt_of_not_le fun inTime => ?_
      simp [Run.step?, waiting, finished, running, undialled, heard, inTime] at settled

theorem isOver_of_finished (known : OnTime policy scripts run) (finished : run.driver.point = .finished) :
    (storyOf policy scripts run.dials.length).isOver = true := by
  have whole := known.story_of_isDone (Run.isDone_of_finished finished)
  rw [whole]

private theorem lt_of_startAt? (known : OnTime policy scripts run) (settled : run.step? limit = none)
    (due : startAt? policy scripts run.dials.length = some next) : limit < next := by
  have timed := known.timed
  obtain finished | ⟨listening, later⟩ := finished_or_listening known.running settled
  · have isOver := known.isOver_of_finished finished
    rw [finished] at timed
    obtain ⟨last, made, -⟩ := timed
    rw [made] at due isOver
    simp [startAt?_of_isOver isOver] at due
  · have before : ∀ finish, run.outlook.over? = some finish → limit < finish := by
      intro finish found
      obtain ⟨instant, signal, ahead, heard, inTime⟩ := upcoming_of_over? found
      exact Nat.lt_of_lt_of_le (later instant signal ahead heard) inTime
    have under : ∀ last, run.dials.length = last + 1 → overAt? policy scripts last = run.outlook.over? →
        limit < next := by
      intro last made finish
      rw [made] at due
      obtain ⟨earlier, duration, -, -, found, rfl⟩ := startAt?_succ_eq_some due
      have := before _ (finish.symm.trans found)
      omega
    simp only [Run.isListening] at listening
    split at listening
    · rename_i point
      rw [point] at timed
      obtain ⟨last, made, finish⟩ := timed
      exact under last made finish
    · rename_i point
      rw [point] at timed
      obtain ⟨last, made, finish⟩ := timed
      exact under last made finish
    · rename_i point
      rw [point] at timed
      exact before next (timed.symm.trans due)
    · cases listening

private theorem isClosed_of_over (known : OnTime policy scripts run) (settled : run.step? limit = none)
    (made : run.dials.length = n + 1) (found : overAt? policy scripts n = some finish) (inTime : finish ≤ limit)
    (isOver : (storyOf policy scripts (n + 1)).isOver = true) :
    run.link.state = .closed (.exhausted policy.maxAttempts) := by
  have state := known.state
  have timed := known.timed
  obtain finished | ⟨listening, later⟩ := finished_or_listening known.running settled
  · rwa [finished] at state
  · have under : overAt? policy scripts n ≠ run.outlook.over? := by
      intro same
      obtain ⟨instant, signal, ahead, heard, before⟩ := upcoming_of_over? (same.symm.trans found)
      have := later instant signal ahead heard
      omega
    have under : ¬ ∃ last, run.dials.length = last + 1 ∧ overAt? policy scripts last = run.outlook.over? := by
      rintro ⟨last, count, same⟩
      cases made.symm.trans count
      exact under same
    simp only [Run.isListening] at listening
    split at listening
    · rename_i point
      rw [point] at timed
      exact absurd timed under
    · rename_i point
      rw [point] at timed
      exact absurd timed under
    · rename_i point
      obtain ⟨due, waking⟩ := known.course.wakes_of_waiting point
      have next : startAt? policy scripts run.dials.length = run.outlook.over? := by
        rwa [point] at timed
      rw [made, startAt?_of_isOver isOver, waking] at next
      cases next
    · cases listening

/-- A closed stream has spent its retries when its last connect was over. -/
theorem of_isClosed (known : OnTime policy scripts run) (closed : run.link.state.isClosed = true) :
    run.link.state = .closed (.exhausted policy.maxAttempts) ∧ ∃ n, run.dials.length = n + 1 ∧
      overAt? policy scripts n = some run.now ∧ (storyOf policy scripts (n + 1)).isOver = true := by
  have state := known.state
  have timed := known.timed
  cases point : run.driver.point with
  | finished =>
    rw [point] at state timed
    obtain ⟨last, made, finish⟩ := timed
    exact ⟨state, last, made, finish, made ▸ known.isOver_of_finished point⟩
  | abandoning attempts =>
    rw [point] at state timed
    obtain ⟨last, made, finish⟩ := timed
    exact ⟨state, last, made, finish, made ▸ (known.course.spent_of_abandoning point).2⟩
  | _ =>
    rw [point] at state
    exact absurd closed (by rw [state]; decide)

/-- A closed stream has at most one callback to make, and no time passes until then. -/
theorem follow_of_isClosed (known : OnTime policy scripts run) (closed : run.link.state.isClosed = true)
    (unclosed : Unclosed moves) (reached : run.follow moves = some last) :
    last.now = run.now ∧ last.dials = run.dials ∧ last.link = run.link ∧
      last.calls <+: run.calls ++ [.closed (.exhausted policy.maxAttempts)] := by
  have state := known.state
  cases moves with
  | nil =>
    cases reached
    exact ⟨rfl, rfl, rfl, List.prefix_append _ _⟩
  | cons move rest =>
    obtain ⟨next, performed, later⟩ := Option.bind_eq_some_iff.mp reached
    have driven := unclosed move List.mem_cons_self
    cases point : run.driver.point with
    | finished => simp [Run.isDone_of_finished point move driven] at performed
    | abandoning attempts =>
      cases (known.course.spent_of_abandoning point).1
      have told : run.driver.advance run.link =
          ({ run.driver with point := .finished }, run.link, [.closed (.exhausted policy.maxAttempts)]) := by
        simp [Driver.advance, Driver.tell, point, known.attached]
      obtain ⟨-, rfl⟩ | ⟨undialled, -⟩ | ⟨waiting, -⟩ := Run.driven_cases known.running driven performed
      · -- The driver has finished, so that nothing comes after its step.
        have finished : run.advance.driver.point = .finished := by simp [Run.advance, told]
        cases rest with
        | nil =>
          cases later
          have calls : run.advance.calls = run.calls ++ [.closed (.exhausted policy.maxAttempts)] := by
            rw [Run.calls_advance, told]
          exact ⟨rfl, rfl, by simp [Run.advance, told], calls ▸ List.prefix_rfl⟩
        | cons other more =>
          have none := Run.isDone_of_finished finished other (unclosed other (by simp))
          simp [Run.follow, none] at later
      · simp [point] at undialled
      · simp [Driver.isWaiting, point] at waiting
    | _ =>
      rw [point] at state
      exact absurd closed (by rw [state]; decide)

theorem startAt?_of_dial (known : OnTime policy scripts run) {start : Nat}
    (made : run.dials.reverse[n]? = some start) : startAt? policy scripts n = some start := by
  obtain ⟨before, -⟩ := List.getElem?_eq_some_iff.mp made
  rw [known.started n (by simpa using before)]
  exact made

theorem lt_length_dials_iff (known : OnTime policy scripts run) (settled : run.step? limit = none)
    (within : run.now ≤ limit) (n : Nat) :
    n < run.dials.length ↔ ∃ start ≤ limit, startAt? policy scripts n = some start := by
  constructor
  · intro before
    have inRange : n < run.dials.reverse.length := by simpa using before
    refine ⟨run.dials.reverse[n], ?_, ?_⟩
    · exact Nat.le_trans (known.past _ (List.mem_reverse.mp (List.getElem_mem inRange))) within
    · rw [known.started n before, List.getElem?_eq_getElem inRange]
  · rintro ⟨start, inTime, due⟩
    refine Nat.lt_of_not_le fun after => ?_
    obtain ⟨earlier, before, next⟩ := startAt?_of_le after due
    have := known.lt_of_startAt? settled next
    omega

/-- The state is closed as soon as a connect with no retry left is over. -/
theorem isClosed_iff (known : OnTime policy scripts run) (settled : run.step? limit = none)
    (within : run.now ≤ limit) :
    run.link.state = .closed (.exhausted policy.maxAttempts) ↔ ∃ n finish, finish ≤ limit ∧
      overAt? policy scripts n = some finish ∧ (storyOf policy scripts (n + 1)).isOver = true := by
  constructor
  · intro closed
    obtain ⟨-, n, -, finish, isOver⟩ := known.of_isClosed (by rw [closed]; rfl)
    exact ⟨n, run.now, within, finish, isOver⟩
  · rintro ⟨n, finish, inTime, found, isOver⟩
    have started := known.lt_length_dials_iff settled within
    obtain ⟨start, began, ended⟩ := Option.bind_eq_some_iff.mp found
    obtain ⟨duration, -, same⟩ := Option.bind_eq_some_iff.mp ended
    cases same
    have made := (started n).mpr ⟨start, by omega, began⟩
    have single : ¬ n + 1 < run.dials.length := by
      intro more
      obtain ⟨later, -, next⟩ := (started (n + 1)).mp more
      simp [startAt?_of_isOver isOver] at next
    exact known.isClosed_of_over settled (by omega) found inTime isOver

end OnTime

/-- With enough fuel a run in virtual time comes to where nothing is left to do by its limit. -/
theorem OnCourse.step?_iterate {run : Run} (fuel : Nat) (known : OnCourse policy scripts run)
    (enough : effort run.driver run.outlook run.scripts ≤ fuel) (limit : Nat) :
    (run.iterate limit fuel).step? limit = none := by
  induction fuel generalizing run with
  | zero =>
    cases stepped : run.step? limit with
    | none => exact stepped
    | some next =>
      obtain ⟨move, driven, performed⟩ := Run.perform_of_step? stepped
      exact absurd (known.perform_effort driven performed) (by omega)
  | succ fuel ih =>
    cases stepped : run.step? limit with
    | none => simp [Run.iterate, stepped]
    | some next =>
      obtain ⟨move, driven, performed⟩ := Run.perform_of_step? stepped
      have less := known.perform_effort driven performed
      simpa [Run.iterate, stepped] using ih (known.perform driven performed) (by omega)

private theorem Run.now_iterate_le {run : Run} (limit fuel : Nat) (within : run.now ≤ limit) :
    (run.iterate limit fuel).now ≤ limit := by
  induction fuel generalizing run with
  | zero => exact within
  | succ fuel ih =>
    cases stepped : run.step? limit with
    | none => simp [Run.iterate, stepped, within]
    | some next =>
      have kept : next.now ≤ limit := by
        simp only [Run.step?] at stepped
        split at stepped
        · exact Option.some.inj stepped ▸ within
        split at stepped
        · cases stepped
        split at stepped
        · exact Option.some.inj stepped ▸ within
        split at stepped
        · exact Option.some.inj stepped ▸ within
        · split at stepped
          · cases stepped
          · split at stepped
            · exact Option.some.inj stepped ▸ Nat.max_le.mpr ⟨within, ‹_›⟩
            · cases stepped
      simpa [Run.iterate, stepped] using ih kept

private theorem onTime_iterate (policy : Policy) (scripts : List Script) (limit : Nat) :
    ∃ run, OnTime policy scripts run ∧ run.step? limit = none ∧ run.now ≤ limit ∧
      ((Run.start policy scripts).runTo limit).dials = run.dials ∧
      ((Run.start policy scripts).runTo limit).link = run.link := by
  obtain ⟨moves, unclosed, reached⟩ :=
    (Run.start policy scripts).exists_follow_iterate limit (Run.start policy scripts).budget
  exact ⟨_, OnTime.follow unclosed reached,
    (OnCourse.start policy scripts).step?_iterate _ (effort_start policy scripts) limit,
    Run.now_iterate_le limit _ (Nat.zero_le limit), rfl, rfl⟩

/-- When a stream that is never closed connects, whatever its policy and its connects. The first connect
starts with the driver, and each later one an interval after the one before it had failed or its
connection had ended, so that retries in a row take as many intervals and their own durations. Nothing
is under way when a connect starts. The state is closed at the instant of the failure that spends the
retries, and only that is told afterwards. In virtual time every connect that is due has started, and
the state is closed as soon as a connect with no retry left is over. -/
theorem connects_on_schedule (policy : Policy) (scripts : List Script) :
    (∀ moves run, Unclosed moves → (Run.start policy scripts).follow moves = some run →
      let dials := run.dials.reverse
      (∀ start, dials[0]? = some start → start = 0) ∧
      (∀ n start later, dials[n]? = some start → dials[n + 1]? = some later → ∃ duration,
        (scriptAt scripts n).duration? = some duration ∧ later = start + duration + policy.interval) ∧
      (∀ n count start later, dials[n]? = some start → dials[n + count]? = some later →
        later = start + count * policy.interval + durations scripts n count) ∧
      (∀ m n later, m < n → dials[n]? = some later →
        ∃ finish, overAt? policy scripts m = some finish ∧ finish + policy.interval ≤ later) ∧
      (run.driver.point = .connecting false → run.outlook = .idle) ∧
      (∀ reason, run.link.state = .closed reason → reason = .exhausted policy.maxAttempts ∧
        overAt? policy scripts (run.dials.length - 1) = some run.now ∧
        ∀ further last, Unclosed further → run.follow further = some last →
          last.now = run.now ∧ last.dials = run.dials ∧ last.link = run.link ∧
            last.calls <+: run.calls ++ [.closed reason])) ∧
    ∀ limit, let run := (Run.start policy scripts).runTo limit
      (∀ n, n < run.dials.length ↔ ∃ start ≤ limit, startAt? policy scripts n = some start) ∧
      (run.link.state = .closed (.exhausted policy.maxAttempts) ↔ ∃ n finish, finish ≤ limit ∧
        overAt? policy scripts n = some finish ∧ (storyOf policy scripts (n + 1)).isOver = true) := by
  refine ⟨?_, ?_⟩
  · intro moves run unclosed reached dials
    have known := OnTime.follow unclosed reached
    refine ⟨?_, ?_, ?_, ?_, ?_, ?_⟩
    · intro start made
      exact (Option.some.inj (known.startAt?_of_dial made)).symm
    · intro n start later made next
      obtain ⟨same, duration, started, lasts, -, rfl⟩ := startAt?_succ_eq_some (known.startAt?_of_dial next)
      cases (known.startAt?_of_dial made).symm.trans started
      exact ⟨duration, lasts, rfl⟩
    · intro n count start later made next
      obtain ⟨same, started, rfl⟩ := startAt?_add count (known.startAt?_of_dial next)
      cases (known.startAt?_of_dial made).symm.trans started
      rfl
    · intro m n later earlier made
      exact overAt?_of_lt earlier (known.startAt?_of_dial made)
    · exact known.course.idle_of_undialled
    · intro reason closed
      have isClosed : run.link.state.isClosed = true := by rw [closed]; rfl
      obtain ⟨spent, last, made, finish, -⟩ := known.of_isClosed isClosed
      cases closed.symm.trans spent
      refine ⟨rfl, by rwa [made], fun further last open_ later => ?_⟩
      exact known.follow_of_isClosed isClosed open_ later
  · intro limit run
    obtain ⟨last, known, settled, within, dials, link⟩ := onTime_iterate policy scripts limit
    refine ⟨fun n => dials ▸ known.lt_length_dials_iff settled within n, ?_⟩
    rw [link]
    exact known.isClosed_iff settled within

/-- A slow refusal, a connection that ends after a while, and a refusal at once. -/
theorem connects_on_schedule_exhausted :
    let policy : Policy := ⟨3000, 1⟩
    let scripts : List Script := [⟨100, .refuse (.connect "refused")⟩, ⟨50, .serve [.wait 200] false⟩]
    let moves : List Move :=
      [.drive, .dial, .hear, .drive, .drive, .hear, .drive, .dial, .hear, .drive, .drive, .hear, .drive,
        .drive, .drive, .hear, .drive, .dial, .hear, .drive]
    Unclosed moves ∧ ∃ run, (Run.start policy scripts).follow moves = some run ∧
      run.dials.reverse = [0, 3100, 6350] ∧ run.now = 6350 ∧ run.link.state = .closed (.exhausted 1) ∧
      6350 = 3100 + 1 * 3000 + durations scripts 1 1 ∧ overAt? policy scripts 2 = some 6350 := by
  intro policy scripts moves
  have unclosed : Unclosed moves := by simp [moves, Unclosed, Move.isClosing]
  have told : ((Run.start policy scripts).follow moves).map (fun run => (run.dials, run.now, run.link.state)) =
      some ([6350, 3100, 0], 6350, .closed (.exhausted 1)) := by decide +kernel
  obtain ⟨run, reached, same⟩ := Option.map_eq_some_iff.mp told
  obtain ⟨dials, now, state⟩ : run.dials = _ ∧ run.now = _ ∧ run.link.state = _ := by simpa using same
  obtain ⟨-, -, apart, -, -, closed⟩ := (connects_on_schedule policy scripts).1 moves run unclosed reached
  obtain ⟨-, finish, -⟩ := closed _ state
  rw [dials] at apart finish
  rw [now] at finish
  exact ⟨unclosed, run, reached, by rw [dials]; rfl, now, state, apart 1 1 3100 6350 rfl rfl, finish⟩

end ProxyWatch.Stream
