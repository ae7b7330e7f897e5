import ProxyWatch.Health.Timeline
import ProxyWatch.Proofs.Health.History

/-! Whatever a timeline does to its poller is one of the histories of that poller. -/
namespace ProxyWatch.Health
namespace Timeline

/-- The timelines that come of a new poller when time goes by, checks are asked for, and polling is
started, changed and stopped. -/
inductive Reached [Url.Idna] (timing : Timing) : Timeline → Prop where
  | start (hosts : Hosts) : Reached timing { hosts, poller := { timing } }
  | step {line next : Timeline} (limit : Nat) (reached : Reached timing line)
      (stepped : line.step? limit = some next) : Reached timing next
  | wait {line : Timeline} (limit : Nat) (reached : Reached timing line) :
      Reached timing { line with now := max line.now limit }
  | advance {line : Timeline} (duration : Nat) (reached : Reached timing line) :
      Reached timing { line with clock := line.clock.advance duration }
  | request {line : Timeline} (urls : List String) (reached : Reached timing line) :
      Reached timing (line.request urls).2
  | startPolling {line : Timeline} (urls : List String) (reached : Reached timing line) :
      Reached timing (line.startPolling urls)
  | setUrls {line : Timeline} (urls : List String) (reached : Reached timing line) :
      Reached timing (line.setUrls urls)
  | stopPolling {line : Timeline} (reached : Reached timing line) : Reached timing line.stopPolling

variable {line next : Timeline} {task : BatchTask} {polled : PollingTask} {timing : Timing} {alarm : Alarm}
  {limit id : Nat} {urls : List String}

/-- What does not change when only the polling task moves. -/
structure Unpolled (line next : Timeline) : Prop where
  now : next.now = line.now
  clock : next.clock = line.clock
  poller : next.poller = line.poller
  tasks : next.tasks = line.tasks

theorem startPolling_unpolled (line : Timeline) (urls : List String) : Unpolled line (line.startPolling urls) := by
  unfold startPolling
  split <;> exact ⟨rfl, rfl, rfl, rfl⟩

theorem setUrls_unpolled (line : Timeline) (urls : List String) : Unpolled line (line.setUrls urls) := by
  unfold setUrls
  split
  · exact ⟨rfl, rfl, rfl, rfl⟩
  · dsimp only
    split <;> exact ⟨rfl, rfl, rfl, rfl⟩

/-- A polling task that wakes up asks for a check. -/
theorem wake_unpolled [Url.Idna] (line : Timeline) (polling : PollingTask) :
    Unpolled (line.request polling.urls).2 (line.wake polling) := by
  unfold wake
  dsimp only
  split
  · split <;> exact ⟨rfl, rfl, rfl, rfl⟩
  · exact ⟨rfl, rfl, rfl, rfl⟩

/-- The end of a batch apart from what the polling task makes of it. -/
def ended (line : Timeline) (task : BatchTask) : Timeline :=
  { line with
    tasks := line.tasks.map fun other => if other.id = task.id then { other with ended := true } else other
    poller := match task.result with
      | some result => line.poller.complete task.id result line.reading
      | none => line.poller }

theorem finish_unpolled (line : Timeline) (task : BatchTask) :
    Unpolled (line.ended task) (line.finish task) := by
  unfold finish
  dsimp only
  split
  · split <;> exact ⟨rfl, rfl, rfl, rfl⟩
  · exact ⟨rfl, rfl, rfl, rfl⟩

theorem request_now [Url.Idna] (line : Timeline) (urls : List String) : (line.request urls).2.now = line.now := by
  unfold request
  dsimp only
  split <;> rfl

private theorem earlier_eq (first second : Alarm × Event) :
    earlier first second = first ∨ earlier first second = second := by
  unfold earlier
  split
  · exact .inr rfl
  · exact .inl rfl

theorem mem_of_next? {event : Alarm × Event} (found : line.next? = some event) :
    event ∈ line.events := by
  unfold next? at found
  split at found
  · cases found
  rename_i first rest listed
  rw [listed]
  cases found
  clear listed
  -- the first event is what is left of the ones compared so far, so it varies
  induction rest generalizing first with
  | nil => exact List.mem_cons_self
  | cons other rest ih =>
    rcases List.mem_cons.mp (ih (earlier first other)) with same | later
    · rw [List.foldl_cons, same]
      rcases earlier_eq first other with left | right
      · rw [left]
        exact List.mem_cons_self
      · rw [right]
        exact List.mem_cons_of_mem _ List.mem_cons_self
    · exact List.mem_cons_of_mem _ (List.mem_cons_of_mem _ later)

private theorem running_of_next? (found : line.next? = some (alarm, .batchEnd task)) :
    task ∈ line.tasks ∧ task.ended = false := by
  have ends : ∀ event ∈ (line.tasks.filter (!·.ended)).map fun task => (task.alarm, Event.batchEnd task),
      event = (alarm, Event.batchEnd task) → task ∈ line.tasks ∧ task.ended = false := by
    intro event member same
    obtain ⟨other, kept, rfl⟩ := List.mem_map.mp member
    cases same
    obtain ⟨member, running⟩ := List.mem_filter.mp kept
    exact ⟨member, by simpa using running⟩
  have member := mem_of_next? found
  unfold events at member
  split at member
  · split at member
    · rcases List.mem_cons.mp member with tick | ended
      · cases tick
      · exact ends _ ended rfl
    · exact ends _ member rfl
  · exact ends _ member rfl

private theorem idle_of_next? (found : line.next? = some (alarm, .tick polled)) :
    line.polling = some polled ∧ polled.phase = .idle alarm := by
  have ends : (alarm, Event.tick polled) ∉
      (line.tasks.filter (!·.ended)).map fun task => (task.alarm, Event.batchEnd task) := by
    simp
  have member := mem_of_next? found
  unfold events at member
  split at member
  · rename_i task polling
    split at member
    · rename_i due idle
      rcases List.mem_cons.mp member with same | other
      · cases same
        exact ⟨polling, idle⟩
      · exact absurd other ends
    · exact absurd member ends
  · exact absurd member ends

/-- What happens next: the task of a batch ends, or the polling task wakes up. -/
theorem step?_cases [Url.Idna] (stepped : line.step? limit = some next) :
    ∃ alarm : Alarm, alarm.due ≤ limit ∧
      ((∃ task ∈ line.tasks, task.ended = false ∧
        next = finish { line with now := max line.now alarm.due } task) ∨
      ∃ polled, line.polling = some polled ∧ polled.phase = .idle alarm ∧
        next = wake { line with now := max line.now alarm.due } polled) := by
  unfold step? at stepped
  split at stepped
  · cases stepped
  rename_i alarm event found
  split at stepped
  · cases stepped
  rename_i inTime
  cases stepped
  refine ⟨alarm, Nat.le_of_not_lt inTime, ?_⟩
  cases event with
  | batchEnd task =>
    obtain ⟨present, runs⟩ := running_of_next? found
    exact .inl ⟨task, present, runs, rfl⟩
  | tick polled =>
    obtain ⟨polling, idle⟩ := idle_of_next? found
    exact .inr ⟨polled, polling, idle, rfl⟩

theorem now_of_step? [Url.Idna] (stepped : line.step? limit = some next) : next.now ≤ max line.now limit := by
  obtain ⟨alarm, due, event⟩ := step?_cases stepped
  have bound : max line.now alarm.due ≤ max line.now limit := by omega
  obtain ⟨task, -, -, rfl⟩ | ⟨polled, -, -, rfl⟩ := event
  · rw [(finish_unpolled _ task).now]
    exact bound
  · rw [(wake_unpolled _ polled).now, request_now]
    exact bound

/-- A timeline that runs takes steps, and waits for the rest of the time. -/
theorem reached_runTo [Url.Idna] (reached : Reached timing line) (limit : Nat) :
    Reached timing (line.runTo limit) := by
  suffices ∀ fuel, Reached timing (iterate limit fuel line) ∧
      (iterate limit fuel line).now ≤ max line.now limit by
    obtain ⟨iterated, bound⟩ := this (line.budget limit)
    have waited := iterated.wait (max line.now limit)
    rw [Nat.max_eq_right bound] at waited
    exact waited
  intro fuel
  induction fuel generalizing line with
  | zero => exact ⟨reached, Nat.le_max_left _ _⟩
  | succ fuel ih =>
    simp only [iterate]
    split
    · exact ⟨reached, Nat.le_max_left _ _⟩
    · rename_i next stepped
      obtain ⟨iterated, bound⟩ := ih (reached.step limit stepped)
      have := now_of_step? stepped
      exact ⟨iterated, by omega⟩

theorem request_joined [Url.Idna] (answer : line.poller.request urls line.reading = (id, line.poller)) :
    (line.request urls).2 = line := by
  simp [request, answer]

/-- A new batch has a task whose result has no url twice. -/
theorem request_begun [Url.Idna] (answer : line.poller.request urls line.reading =
      (line.poller.nextId, line.poller.startBatch urls line.reading)) :
    ∃ task, task.id = line.poller.nextId ∧
      (∀ result, task.result = some result → result.IsDistinct) ∧
      (line.request urls).2.now = line.now ∧ (line.request urls).2.clock = line.clock ∧
      (line.request urls).2.poller = line.poller.startBatch urls line.reading ∧
      (line.request urls).2.tasks = task :: line.tasks := by
  have fresh : (line.poller.startBatch urls line.reading).nextId ≠ line.poller.nextId :=
    Nat.succ_ne_self _
  simp only [request, answer, if_neg fresh]
  refine ⟨_, rfl, ?_, rfl, rfl, trivial, rfl⟩
  intro result found
  simp only [checkAll] at found
  split at found
  · cases found
  · cases found
    exact (Dictionary.isOrdered_ofList _).isDistinct

end Timeline

namespace History
variable {history : History} {line next : Timeline} {task : BatchTask} {timing : Timing} {limit : Nat}

/-- A history tells of the poller of a timeline: time and poller are the same, and the tasks that run in
the timeline run in the history. -/
structure TellsOf (history : History) (line : Timeline) : Prop where
  timely : history.IsTimely
  poller : history.poller = line.poller
  clock : history.clock = line.reading
  begun : ∀ task ∈ history.running, task.begun ≤ history.clock
  running : ∀ task ∈ line.tasks, task.ended = false → ∃ known ∈ history.running, known.id = task.id
  distinct : ∀ task ∈ line.tasks, ∀ result, task.result = some result → result.IsDistinct

theorem TellsOf.of_unpolled (tells : history.TellsOf line) (same : Timeline.Unpolled line next) :
    history.TellsOf next where
  timely := tells.timely
  poller := tells.poller.trans same.poller.symm
  clock := by rw [tells.clock, Timeline.reading, Timeline.reading, same.now, same.clock]
  begun := tells.begun
  running := same.tasks ▸ tells.running
  distinct := same.tasks ▸ tells.distinct

/-- Time goes by, or the clock is advanced. -/
theorem TellsOf.pass (tells : history.TellsOf line) (next : Timeline)
    (later : line.reading ≤ next.reading) (poller : next.poller = line.poller)
    (tasks : next.tasks = line.tasks) :
    (history.perform (.pass (next.reading - line.reading))).TellsOf next where
  timely := tells.timely.pass _
  poller := tells.poller.trans poller.symm
  clock := by
    show history.clock + (next.reading - line.reading) = next.reading
    rw [tells.clock, Nat.add_sub_cancel' later]
  begun task member := Nat.le_add_right_of_le (tells.begun task member)
  running := tasks ▸ tells.running
  distinct := tasks ▸ tells.distinct

theorem TellsOf.request [Url.Idna] (tells : history.TellsOf line) (urls : List String) :
    (history.perform (.request urls line.reading)).TellsOf (line.request urls).2 := by
  have timely := tells.timely
  simp only [perform, tells.clock, Nat.le_refl, if_true]
  rcases history.poller.request_cases urls line.reading with ⟨batch, found, answer⟩ | answer
  · rw [timely.request_joined found answer]
    rw [tells.poller] at answer
    rw [Timeline.request_joined answer]
    exact tells
  · rw [timely.request_begun answer]
    rw [tells.poller] at answer
    obtain ⟨task, number, taskDistinct, now, clock, poller, tasks⟩ := Timeline.request_begun answer
    constructor
    · exact timely.begin urls line.reading
    · rw [poller, ← tells.poller]
      rfl
    · show history.clock = (line.request urls).2.now + (line.request urls).2.clock.elapsed
      rw [now, clock]
      exact tells.clock
    · intro known member
      rcases List.mem_cons.mp member with rfl | old
      · exact Nat.le_refl _
      · exact tells.begun known old
    · rw [tasks]
      intro other member runs
      rcases List.mem_cons.mp member with rfl | old
      · exact ⟨_, List.mem_cons_self, tells.poller ▸ number.symm⟩
      · obtain ⟨known, present, same⟩ := tells.running other old runs
        exact ⟨known, List.mem_cons_of_mem _ present, same⟩
    · rw [tasks]
      intro other member
      rcases List.mem_cons.mp member with rfl | old
      · exact taskDistinct
      · exact tells.distinct other old

/-- A running task ends in the history with the result that it has in the timeline. -/
theorem TellsOf.finish (tells : history.TellsOf line) (member : task ∈ line.tasks)
    (runs : task.ended = false) :
    ∃ occurrence, (history.perform occurrence).TellsOf (line.finish task) := by
  have outcome : ∃ outcome : Option Findings, task.result = outcome.map (·.entries) := by
    cases found : task.result with
    | none => exact ⟨none, rfl⟩
    | some result => exact ⟨some ⟨result, tells.distinct task member result found⟩, rfl⟩
  obtain ⟨outcome, result⟩ := outcome
  refine ⟨.finish task.id outcome line.reading, ?_⟩
  have performed : history.perform (.finish task.id outcome line.reading) =
      history.finish task.id outcome line.reading := by
    obtain ⟨known, present, same⟩ := tells.running task member runs
    have isSome : (history.running.find? (·.id == task.id)).isSome :=
      List.find?_isSome.mpr ⟨known, present, by simpa using same⟩
    obtain ⟨first, found⟩ := Option.isSome_iff_exists.mp isSome
    have begun := tells.begun first (List.mem_of_find?_eq_some found)
    simp only [perform, found]
    rw [if_pos ⟨tells.clock ▸ begun, Nat.le_of_eq tells.clock.symm⟩]
  rw [performed]
  refine TellsOf.of_unpolled ?_ (Timeline.finish_unpolled line task)
  obtain ⟨-, -, -, clock, running⟩ := finish_frame history task.id outcome line.reading
  constructor
  · exact tells.timely.finish task.id outcome (Nat.le_of_eq tells.clock.symm)
  · cases outcome with
    | none => simpa [History.finish, Timeline.ended, result] using tells.poller
    | some findings => simp [History.finish, Timeline.ended, result, tells.poller]
  · rw [clock]
    exact tells.clock
  · rw [clock, running]
    exact fun known present => tells.begun known (List.mem_filter.mp present).1
  · rw [running]
    intro other ended stillRuns
    obtain ⟨original, old, rfl⟩ := List.mem_map.mp ended
    split at stillRuns
    · cases stillRuns
    · rename_i different
      obtain ⟨known, present, same⟩ := tells.running original old stillRuns
      rw [if_neg different]
      refine ⟨known, List.mem_filter.mpr ⟨present, ?_⟩, same⟩
      simpa [same] using different
  · intro other ended
    obtain ⟨original, old, rfl⟩ := List.mem_map.mp ended
    have distinct := tells.distinct original old
    split <;> exact distinct

private theorem tellsOf_start (timing : Timing) (hosts : Hosts) :
    (start timing).TellsOf { hosts, poller := { timing } } where
  timely := isTimely_start timing
  poller := rfl
  clock := rfl
  begun _ member := by cases member
  running _ member := by cases member
  distinct _ member := by cases member

/-- The event of a step happens after the time up to it has passed. -/
theorem TellsOf.step [Url.Idna] (tells : history.TellsOf line) (stepped : line.step? limit = some next) :
    ∃ first second, ((history.perform first).perform second).TellsOf next := by
  obtain ⟨alarm, -, event⟩ := Timeline.step?_cases stepped
  have passed := tells.pass { line with now := max line.now alarm.due }
    (Nat.add_le_add_right (Nat.le_max_left line.now alarm.due) _) rfl rfl
  obtain ⟨task, member, runs, rfl⟩ | ⟨polled, -, -, rfl⟩ := event
  · obtain ⟨occurrence, finished⟩ := passed.finish member runs
    exact ⟨_, occurrence, finished⟩
  · have asked := passed.request polled.urls
    exact ⟨_, _, asked.of_unpolled (Timeline.wake_unpolled _ polled)⟩

/-- Every timeline that can be reached has a history. -/
theorem exists_tellsOf [Url.Idna] (reached : Timeline.Reached timing line) :
    ∃ occurrences, ((start timing).follow occurrences).TellsOf line := by
  induction reached with
  | start hosts => exact ⟨[], tellsOf_start timing hosts⟩
  | step limit _ stepped ih =>
    obtain ⟨earlier, tells⟩ := ih
    obtain ⟨first, second, tells⟩ := tells.step stepped
    rw [follow_perform, follow_perform] at tells
    exact ⟨_, tells⟩
  | @wait line limit _ ih =>
    obtain ⟨earlier, tells⟩ := ih
    have passed := tells.pass { line with now := max line.now limit }
      (Nat.add_le_add_right (Nat.le_max_left line.now limit) _) rfl rfl
    rw [follow_perform] at passed
    exact ⟨_, passed⟩
  | @advance line duration _ ih =>
    obtain ⟨earlier, tells⟩ := ih
    have passed := tells.pass { line with clock := line.clock.advance duration }
      (Nat.add_le_add_left (Nat.le_add_right _ duration) _) rfl rfl
    rw [follow_perform] at passed
    exact ⟨_, passed⟩
  | request urls _ ih =>
    obtain ⟨earlier, tells⟩ := ih
    have asked := tells.request urls
    rw [follow_perform] at asked
    exact ⟨_, asked⟩
  | startPolling urls _ ih =>
    obtain ⟨earlier, tells⟩ := ih
    exact ⟨earlier, tells.of_unpolled (Timeline.startPolling_unpolled _ urls)⟩
  | setUrls urls _ ih =>
    obtain ⟨earlier, tells⟩ := ih
    exact ⟨earlier, tells.of_unpolled (Timeline.setUrls_unpolled _ urls)⟩
  | stopPolling _ ih =>
    obtain ⟨earlier, tells⟩ := ih
    exact ⟨earlier, tells.of_unpolled ⟨rfl, rfl, rfl, rfl⟩⟩

end History
end ProxyWatch.Health
