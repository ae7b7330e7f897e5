import ProxyWatch.Proofs.Health.Joining
import ProxyWatch.Proofs.Health.Polling

/-! What a polling task refreshes, and where a timeline is one of its interleavings.

In virtual time the task takes what is due first, and a task that is stopped hears of it before all else. -/
namespace ProxyWatch.Health

namespace Timeline
variable {line next : Timeline} {task : BatchTask} {polled : PollingTask} {timing : Timing}
  {urls : List String} {alarm : Alarm} {id limit : Nat}

/-- The batches whose tasks have ended. -/
def endedIds (line : Timeline) : List Nat := (line.tasks.filter (·.ended)).map (·.id)

theorem mem_endedIds : id ∈ line.endedIds ↔ ∃ task ∈ line.tasks, task.id = id ∧ task.ended = true := by
  simp only [endedIds, List.mem_map, List.mem_filter]
  exact exists_congr fun task => by tauto

theorem mem_endedIds_ended (present : task ∈ line.tasks) :
    id ∈ (line.ended task).endedIds ↔ id = task.id ∨ id ∈ line.endedIds := by
  rw [mem_endedIds, mem_endedIds]
  exact exists_ended_iff present id

theorem Unpolled.endedIds (same : Unpolled line next) : next.endedIds = line.endedIds := by
  rw [Timeline.endedIds, Timeline.endedIds, same.tasks]

theorem request_frame [Url.Idna] (line : Timeline) (urls : List String) :
    ((line.request urls).1, (line.request urls).2.poller) = line.poller.request urls line.reading ∧
      (line.request urls).2.poller.timing = line.poller.timing ∧
      (line.request urls).2.endedIds = line.endedIds := by
  rcases line.poller.request_cases urls line.reading with ⟨batch, -, answer⟩ | answer
  · simp [request, answer]
  · simp [request, answer, endedIds, alarmAt, Poller.startBatch]

private theorem request_polling [Url.Idna] (line : Timeline) (urls : List String) :
    (line.request urls).2.polling = line.polling := by
  unfold request
  dsimp only
  split <;> rfl

private theorem endedIds_wake [Url.Idna] (line : Timeline) (polled : PollingTask) :
    (line.wake polled).endedIds = line.endedIds :=
  (line.wake_unpolled polled).endedIds.trans (line.request_frame polled.urls).2.2

/-- Every batch has its task. -/
def IsNumbered (line : Timeline) : Prop := line.tasks.map (·.id) = (List.range line.poller.nextId).reverse

theorem IsNumbered.of_unpolled (numbered : line.IsNumbered) (same : Unpolled line next) : next.IsNumbered := by
  rw [IsNumbered, same.tasks, same.poller]
  exact numbered

theorem IsNumbered.request [Url.Idna] (numbered : line.IsNumbered) (urls : List String) :
    (line.request urls).2.IsNumbered := by
  rcases line.poller.request_cases urls line.reading with ⟨batch, -, answer⟩ | answer
  · rw [request_joined answer]
    exact numbered
  · obtain ⟨task, number, -, -, -, poller, tasks⟩ := request_begun answer
    rw [IsNumbered] at numbered ⊢
    rw [poller, tasks, List.map_cons, number, numbered, Poller.startBatch, List.range_succ, List.reverse_concat]

theorem IsNumbered.ended (numbered : line.IsNumbered) (task : BatchTask) : (line.ended task).IsNumbered := by
  obtain ⟨-, -, nextId, tasks⟩ := line.ended_frame task
  have ids := congrArg (List.map Prod.fst) tasks
  rw [List.map_map, List.map_map] at ids
  rw [IsNumbered, nextId]
  exact ids.trans numbered

private theorem Reached.isNumbered [Url.Idna] (reached : Reached timing line) : line.IsNumbered := by
  induction reached with
  | start hosts => rfl
  | step limit _ stepped ih =>
    obtain ⟨alarm, -, ⟨task, -, -, rfl⟩ | ⟨polled, -, -, rfl⟩⟩ := step?_cases stepped
    · exact (IsNumbered.ended (by exact ih) task).of_unpolled (finish_unpolled _ task)
    · exact (IsNumbered.request (by exact ih) polled.urls).of_unpolled (wake_unpolled _ polled)
  | wait | advance | stopPolling => assumption
  | request urls _ ih => exact ih.request urls
  | startPolling urls _ ih => exact ih.of_unpolled (startPolling_unpolled _ urls)
  | setUrls urls _ ih => exact ih.of_unpolled (setUrls_unpolled _ urls)

theorem rest_polling (line : Timeline) (polled : PollingTask) :
    ∃ alarm, (line.rest polled).polling = some { polled with phase := .idle alarm } ∧
      (polled.changed = false → polled.nextTick ≤ alarm.due) := by
  refine ⟨_, rfl, fun unchanged => ?_⟩
  rw [unchanged, if_neg Bool.false_ne_true]
  exact Nat.le_max_left _ _

/-- When the tick is due after the one that wakes the task up. -/
def tickAfterWake (line : Timeline) (polled : PollingTask) : Nat :=
  if polled.changed then line.now + line.poller.timing.interval
  else tickAfter polled.nextTick line.now line.poller.timing.interval

private theorem wake_polling [Url.Idna] (line : Timeline) (polled : PollingTask) :
    ∃ phase, (line.wake polled).polling =
        some { polled with nextTick := line.tickAfterWake polled, changed := false, phase } ∧
      (phase = .refreshing (line.request polled.urls).1 ∨
        (line.request polled.urls).1 ∈ (line.wake polled).endedIds ∧ ∃ alarm, phase = .idle alarm ∧
          line.tickAfterWake polled ≤ alarm.due) := by
  rw [(line.wake_unpolled polled).endedIds]
  unfold wake
  dsimp only
  split
  · rename_i task found
    split
    · rename_i finished
      obtain ⟨alarm, rested, due⟩ := rest_polling (line.request polled.urls).2 _
      refine ⟨_, rested, .inr ⟨?_, alarm, rfl, due rfl⟩⟩
      have same : task.id = (line.request polled.urls).1 := by simpa using List.find?_some found
      exact mem_endedIds.mpr ⟨task, List.mem_of_find?_eq_some found, same, finished⟩
    · exact ⟨_, rfl, .inl rfl⟩
  · exact ⟨_, rfl, .inl rfl⟩

private theorem finish_polling (task : BatchTask) (polling : line.polling = some polled) :
    ∃ phase, (line.finish task).polling = some { polled with phase } ∧
      (polled.phase ≠ .refreshing task.id ∧ phase = polled.phase ∨
        polled.phase = .refreshing task.id ∧ ∃ alarm, phase = .idle alarm ∧
          (polled.changed = false → polled.nextTick ≤ alarm.due)) := by
  unfold finish
  simp only [polling]
  split
  · rename_i refreshing
    obtain ⟨alarm, rested, due⟩ := rest_polling (line.ended task) polled
    exact ⟨_, rested, .inr ⟨refreshing, alarm, rfl, due⟩⟩
  · rename_i apart
    exact ⟨polled.phase, rfl, .inl ⟨apart, rfl⟩⟩

end Timeline

/-- Where a polling task stands that is in some phase. -/
def PollingPhase.point : PollingPhase → Polling.Point
  | idle _ => .resting
  | refreshing batch => .awaiting batch

private theorem Timeline.setUrls_polling {line : Timeline} {polled : PollingTask} (urls : List String)
    (polling : line.polling = some polled) :
    ∃ phase, (line.setUrls urls).polling = some { polled with urls, changed := true, phase } ∧
      phase.point = polled.phase.point := by
  unfold setUrls
  simp only [polling]
  split
  · rename_i alarm idle
    obtain ⟨alarm, rested, -⟩ := rest_polling line { polled with urls, changed := true }
    exact ⟨_, rested, by rw [idle]; rfl⟩
  · exact ⟨_, rfl, rfl⟩

namespace Polling

/-- The polling task that a timeline begins. -/
def spawned (line : Timeline) (urls : List String) : Polling := start line.poller line.endedIds line.now urls

/-- A polling task stands where the polling task of a timeline does, and its handle is held. -/
structure Shows (polling : Polling) (line : Timeline) (polled : PollingTask) : Prop where
  now : polling.now = line.now
  poller : polling.poller = line.poller
  interval : polling.interval = line.poller.timing.interval
  finished : ∀ id, id ∈ polling.finished ↔ id ∈ line.endedIds
  urls : polling.urls = polled.urls
  unseen : polling.unseen = polled.changed
  nextTick : polling.nextTick = polled.nextTick
  point : polling.point = polled.phase.point
  held : polling.stopped = false ∧ polling.closed = false
  /-- The alarm does not go off before there is something to do. -/
  due : ∀ alarm, polled.phase = .idle alarm → polled.changed = false → polled.nextTick ≤ alarm.due

variable {polling : Polling} {line next : Timeline} {polled : PollingTask} {task : BatchTask}
  {timing : Timing}

private theorem exists_shows_start (line : Timeline) (urls : List String) (positive : line.poller.timing.interval ≠ 0) :
    ∃ polling polled, (spawned line urls).follow [.begin] = some polling ∧
      (line.startPolling urls).polling = some polled ∧ polling.Shows (line.startPolling urls) polled := by
  unfold Timeline.startPolling
  rw [if_neg positive]
  refine ⟨_, _, rfl, rfl, ?_⟩
  exact {
    now := rfl
    poller := rfl
    interval := rfl
    finished := fun _ => Iff.rfl
    urls := rfl
    unseen := rfl
    nextTick := rfl
    point := if_neg positive
    held := ⟨rfl, rfl⟩
    due := by
      rintro _ ⟨⟩ -
      exact Nat.le_refl _ }

theorem Shows.wait (shows : polling.Shows line polled) (limit : Nat) :
    ∃ last, polling.perform (.wait (max line.now limit - line.now)) = some last ∧
      last.Shows { line with now := max line.now limit } polled := by
  refine ⟨_, rfl, { shows with now := ?_ }⟩
  show polling.now + _ = max line.now limit
  rw [shows.now]
  omega

theorem Shows.request [Url.Idna] (shows : polling.Shows line polled) (urls : List String) :
    ∃ last, polling.perform (.request urls line.reading) = some last ∧ last.Shows (line.request urls).2 polled := by
  obtain ⟨answer, timing, ended⟩ := line.request_frame urls
  have poller : (polling.poller.request urls line.reading).2 = (line.request urls).2.poller := by
    rw [shows.poller, ← answer]
  refine ⟨_, rfl, { shows with now := ?_, poller, interval := ?_, finished := ?_ }⟩
  · exact shows.now.trans (Timeline.request_now line urls).symm
  · rw [timing]
    exact shows.interval
  · exact fun id => ended ▸ shows.finished id

theorem Shows.setUrls (shows : polling.Shows line polled) (polls : line.polling = some polled) (urls : List String) :
    ∃ last changed, polling.perform (.setUrls urls) = some last ∧
      (line.setUrls urls).polling = some changed ∧ last.Shows (line.setUrls urls) changed := by
  obtain ⟨phase, set, point⟩ := Timeline.setUrls_polling urls polls
  have same := Timeline.setUrls_unpolled line urls
  refine ⟨_, _, if_neg (by simp [shows.held]), set, ?_⟩
  exact { shows with
    now := shows.now.trans same.now.symm
    poller := shows.poller.trans same.poller.symm
    interval := by
      rw [same.poller]
      exact shows.interval
    finished := same.endedIds ▸ shows.finished
    urls := rfl
    unseen := rfl
    point := shows.point.trans point.symm
    due := fun _ _ unchanged => by cases unchanged }

private theorem follow_refresh (woken : polling.point = .woken) (reading : Nat) :
    polling.follow [.read, .ask reading] = some { polling with
      poller := (polling.poller.request polling.urls reading).2
      unseen := false
      refreshes := ⟨polling.urls, (polling.poller.request polling.urls reading).1⟩ :: polling.refreshes
      point := .awaiting (polling.poller.request polling.urls reading).1 } := by
  simp [follow, Polling.perform, woken]

/-- The task wakes up for what it has been told, or else for its tick. -/
theorem Shows.exists_woken (shows : polling.Shows line polled) {alarm : Alarm}
    (idle : polled.phase = .idle alarm) (due : alarm.due ≤ line.now) : ∃ move unseen, polling.perform move =
      some { polling with unseen, nextTick := line.tickAfterWake polled, point := .woken } := by
  have resting : polling.point = .resting := by rw [shows.point, idle]; rfl
  cases changed : polled.changed with
  | true =>
    refine ⟨.hearUrls, false, ?_⟩
    simp [Polling.perform, resting, shows.unseen, changed, Timeline.tickAfterWake, shows.now, shows.interval]
  | false =>
    have late := Nat.le_trans (shows.due alarm idle changed) due
    refine ⟨.tick, false, ?_⟩
    simp [Polling.perform, resting, shows.unseen, changed, Timeline.tickAfterWake, shows.now, shows.interval,
      shows.nextTick, late]

private theorem Shows.exists_asked [Url.Idna] (shows : polling.Shows line polled) {alarm : Alarm}
    (idle : polled.phase = .idle alarm) (due : alarm.due ≤ line.now) :
    ∃ moves asked, polling.follow moves = some asked ∧ asked.Shows (line.wake polled) { polled with
      nextTick := line.tickAfterWake polled
      changed := false
      phase := .refreshing (line.request polled.urls).1 } := by
  obtain ⟨move, unseen, performed⟩ := shows.exists_woken idle due
  obtain ⟨answer, timing, -⟩ := line.request_frame polled.urls
  have same := Timeline.wake_unpolled line polled
  have asked : polling.poller.request polling.urls line.reading =
      ((line.request polled.urls).1, (line.wake polled).poller) := by
    rw [shows.poller, shows.urls, same.poller, answer]
  refine ⟨[move, .read, .ask line.reading], _, by rw [follow, performed, Option.bind_some, follow_refresh rfl], ?_⟩
  exact {
    now := shows.now.trans ((Timeline.request_now line polled.urls).symm.trans same.now.symm)
    poller := congrArg Prod.snd asked
    interval := by
      rw [same.poller, timing]
      exact shows.interval
    finished := by
      rw [Timeline.endedIds_wake]
      exact shows.finished
    urls := shows.urls
    unseen := rfl
    nextTick := rfl
    point := congrArg Point.awaiting (congrArg Prod.fst asked)
    held := shows.held
    due := fun _ sleeps => by cases sleeps }

/-- A task that waits for a batch that is over may have gone on already. -/
theorem Shows.exists_resumed {batch : Nat} {phase : PollingPhase} (shows : polling.Shows line polled)
    (waits : polled.phase = .refreshing batch)
    (led : phase = .refreshing batch ∨ batch ∈ line.endedIds ∧ ∃ alarm, phase = .idle alarm ∧
      (polled.changed = false → polled.nextTick ≤ alarm.due)) :
    ∃ moves last, polling.follow moves = some last ∧ last.Shows line { polled with phase } := by
  obtain rfl | ⟨finished, alarm, rfl, due⟩ := led
  · exact ⟨[], polling, rfl, waits ▸ shows⟩
  · have resumed : polling.follow [.resume] = some { polling with point := .resting } := by
      have awaiting : polling.point = .awaiting batch := by rw [shows.point, waits]; rfl
      simp [follow, Polling.perform, awaiting, shows.finished batch, finished]
    refine ⟨_, _, resumed, { shows with point := rfl, due := ?_ }⟩
    rintro _ ⟨⟩
    exact due

theorem Shows.wake [Url.Idna] (shows : polling.Shows line polled) {alarm : Alarm}
    (idle : polled.phase = .idle alarm) (due : alarm.due ≤ line.now) :
    ∃ moves last woken, polling.follow moves = some last ∧
      (line.wake polled).polling = some woken ∧ last.Shows (line.wake polled) woken := by
  obtain ⟨moves, asked, reached, shown⟩ := shows.exists_asked idle due
  obtain ⟨phase, polls, led⟩ := line.wake_polling polled
  obtain ⟨more, last, resumed, shown⟩ := shown.exists_resumed rfl
    (led.imp_right (And.imp_right (Exists.imp fun _ => And.imp_right fun due _ => due)))
  exact ⟨_, last, _, follow_trans reached resumed, polls, shown⟩

/-- The end of a batch, of which the task hears if it waits for that batch. -/
theorem Shows.finish (shows : polling.Shows line polled) (polls : line.polling = some polled)
    (numbered : line.IsNumbered) (present : task ∈ line.tasks) (runs : task.ended = false) :
    ∃ moves last woken, polling.follow moves = some last ∧
      (line.finish task).polling = some woken ∧ last.Shows (line.finish task) woken := by
  obtain ⟨phase, finished, led⟩ := Timeline.finish_polling task polls
  have same := Timeline.finish_unpolled line task
  obtain ⟨timing, -⟩ := line.ended_frame task
  have early : task.id < polling.poller.nextId := by
    have listed := List.mem_map_of_mem (f := (·.id)) present
    rw [numbered, List.mem_reverse, List.mem_range] at listed
    rwa [shows.poller]
  have running : task.id ∉ polling.finished := by
    rw [shows.finished, Timeline.mem_endedIds]
    rintro ⟨other, listed, sameId, ended⟩
    have distinct : (line.tasks.map (·.id)).Nodup := numbered ▸ List.nodup_reverse.mpr List.nodup_range
    rw [List.inj_on_of_nodup_map distinct listed present sameId, runs] at ended
    cases ended
  have ended : ∀ id, id ∈ (line.finish task).endedIds ↔ id = task.id ∨ id ∈ line.endedIds := by
    intro id
    rw [same.endedIds]
    exact Timeline.mem_endedIds_ended present
  have performed : polling.perform (.finish task.id task.result line.reading) = some { polling with
      poller := completed polling.poller task.id task.result line.reading
      finished := task.id :: polling.finished } := if_pos ⟨early, running⟩
  have shown : Shows { polling with
      poller := completed polling.poller task.id task.result line.reading
      finished := task.id :: polling.finished } (line.finish task) polled := { shows with
    now := shows.now.trans same.now.symm
    poller := by
      rw [same.poller, shows.poller]
      rfl
    interval := by
      rw [same.poller, timing]
      exact shows.interval
    finished := fun id => by rw [List.mem_cons, shows.finished, ended] }
  rcases led with ⟨-, rfl⟩ | ⟨refreshing, led⟩
  · exact ⟨[_], _, _, by rw [follow, performed]; rfl, finished, shown⟩
  · obtain ⟨moves, last, resumed, shown⟩ := shown.exists_resumed refreshing
      (.inr ⟨(ended task.id).mpr (.inl rfl), led⟩)
    exact ⟨.finish task.id task.result line.reading :: moves, last, _,
      by rw [follow, performed, Option.bind_some, resumed], finished, shown⟩

/-- Where a timeline polls, its task is in one of the interleavings of a task that an earlier timeline spawned. -/
theorem exists_shows [Url.Idna] (reached : Timeline.Reached timing line) (polls : line.polling = some polled) :
    ∃ origin first moves polling, Timeline.Reached timing origin ∧
      (spawned origin first).follow moves = some polling ∧ polling.Shows line polled := by
  induction reached generalizing polled with
  | start hosts => cases polls
  | @step line next limit before stepped ih =>
    obtain ⟨alarm, -, ⟨task, present, runs, rfl⟩ | ⟨sleeper, sleeps, idle, rfl⟩⟩ :=
      Timeline.step?_cases stepped
    · obtain running | ⟨former, running⟩ := Option.eq_none_or_eq_some line.polling
      · rw [Timeline.finish_of_unpolled (by exact running), Timeline.ended, running] at polls
        cases polls
      · obtain ⟨origin, first, moves, polling, began, followed, shows⟩ := ih running
        obtain ⟨waited, passed, shows⟩ := shows.wait alarm.due
        obtain ⟨more, last, woken, finished, same, shows⟩ :=
          shows.finish (by exact running) (by exact before.isNumbered) (by exact present) runs
        rw [same] at polls
        cases polls
        exact ⟨origin, first, _, last, began, follow_trans (follow_concat followed passed) finished, shows⟩
    · obtain ⟨origin, first, moves, polling, began, followed, shows⟩ := ih sleeps
      obtain ⟨waited, passed, shows⟩ := shows.wait alarm.due
      obtain ⟨more, last, woken, woke, same, shows⟩ := shows.wake idle (Nat.le_max_right _ _)
      rw [same] at polls
      cases polls
      exact ⟨origin, first, _, last, began, follow_trans (follow_concat followed passed) woke, shows⟩
  | wait limit _ ih =>
    obtain ⟨origin, first, moves, polling, began, followed, shows⟩ := ih polls
    obtain ⟨waited, passed, shows⟩ := shows.wait limit
    exact ⟨origin, first, _, waited, began, follow_concat followed passed, shows⟩
  | advance duration _ ih =>
    obtain ⟨origin, first, moves, polling, began, followed, shows⟩ := ih polls
    exact ⟨origin, first, moves, polling, began, followed, { shows with }⟩
  | @request line urls _ ih =>
    obtain ⟨origin, first, moves, polling, began, followed, shows⟩ := ih (line.request_polling urls ▸ polls)
    obtain ⟨asked, performed, shows⟩ := shows.request urls
    exact ⟨origin, first, _, asked, began, follow_concat followed performed, shows⟩
  | @startPolling line urls before _ =>
    by_cases none : line.poller.timing.interval = 0
    · rw [Timeline.startPolling, if_pos none] at polls
      cases polls
    · obtain ⟨polling, begun, followed, same, shows⟩ := exists_shows_start line urls none
      rw [same] at polls
      cases polls
      exact ⟨line, urls, _, polling, before, followed, shows⟩
  | @setUrls line urls _ ih =>
    cases running : line.polling with
    | none => simp [Timeline.setUrls, running] at polls
    | some former =>
      obtain ⟨origin, first, moves, polling, began, followed, shows⟩ := ih running
      obtain ⟨set, changed, performed, same, shows⟩ := shows.setUrls running urls
      rw [same] at polls
      cases polls
      exact ⟨origin, first, _, set, began, follow_concat followed performed, shows⟩
  | stopPolling => cases polls

end Polling

open Polling (Move lastSet)

/-- A polling task, whatever happens beside it and whichever it takes of the things that it could go on with. It
refreshes the urls that were set last when it read them; if others were set between the reading and the refresh, they
are still to be taken up. Where it waits for a tick with no other urls to be taken up, its last refresh was of the urls
that were set last, or its first tick is due and it has not refreshed anything yet. It ends only if its handle stops it
or is gone, or at once if it has no interval, and then it refreshes nothing any more. Between the end of its handle and
its own, it refreshes no more than what it had still to take up and what ticks can be taken in the meantime, and it may
do so: it goes on with stop, or with anything else that is due. Where a timeline polls, its task is one of these. -/
theorem refreshes_of_polling [Url.Idna] (poller : Poller) (finished : List Nat) (now : Nat) (first : List String)
    (moves : List Move) (polling : Polling)
    (reached : (Polling.start poller finished now first).follow moves = some polling) :
    (∀ move next, polling.perform move = some next → next.refreshes ≠ polling.refreshes →
      ∃ reading urls batch earlier between, move = .ask reading ∧
        polling.poller.request urls reading = (batch, next.poller) ∧
        next.refreshes = ⟨urls, batch⟩ :: polling.refreshes ∧
        moves = earlier ++ .read :: between ∧ (∀ other ∈ between, other ≠ .read) ∧
        urls = lastSet first earlier ∧
        (urls = lastSet first moves ∨ polling.unseen = true ∧ ∃ others, .setUrls others ∈ between)) ∧
    (polling.IsIdle →
      (∃ last, polling.refreshes.head? = some last ∧ last.urls = lastSet first moves) ∨
      polling.refreshes = [] ∧ polling.nextTick ≤ polling.now) ∧
    (polling.point = .ended →
      (polling.stopped = true ∨ polling.closed = true ∨ poller.timing.interval = 0) ∧
      ∀ later last, polling.follow later = some last → last.refreshes = polling.refreshes) ∧
    (poller.timing.interval = 0 → polling.refreshes = []) ∧
    (polling.IsReleased →
      (∀ later last, polling.follow later = some last →
        last.refreshes.length ≤ polling.refreshes.length + polling.roundsBy last.now) ∧
      (0 < polling.roundsBy polling.now → (∀ batch, polling.point = .awaiting batch → batch ∈ polling.finished) →
        polling.MayRefresh)) ∧
    ∀ timing line polled, Timeline.Reached timing line → line.polling = some polled →
      ∃ origin urls earlier shown, Timeline.Reached timing origin ∧
        (Polling.spawned origin urls).follow earlier = some shown ∧ shown.Shows line polled := by
  have keeps := Polling.keeps_of_follow reached
  have interval : polling.interval = poller.timing.interval := Polling.interval_of_follow reached
  refine ⟨?_, keeps.current_of_isIdle,
    fun ended => ⟨interval ▸ keeps.ended ended, fun _ _ => Polling.refreshes_of_ended ended⟩,
    fun none => (keeps.interval (interval.trans none)).2,
    fun released => ⟨fun _ _ => keeps.refreshes_le released, Polling.mayRefresh_of_rounds⟩,
    fun _ _ _ => Polling.exists_shows⟩
  intro move next performed changed
  obtain same | ⟨reading, urls, batch, asks, held, answer, refreshes⟩ := Polling.refreshes_of_perform performed
  · exact absurd same changed
  · obtain ⟨earlier, between, split, unread, set, newest⟩ := keeps.urls_of_refresh held
    exact ⟨reading, urls, batch, earlier, between, asks, answer, refreshes, split, unread, set, newest⟩

/-- Other urls are set while the first ones are checked. The task takes them up, and stopped before its next tick is
due it refreshes nothing until then. -/
theorem refreshes_of_polling_set :
    let moves : List Move :=
      [.begin, .tick, .read, .ask 0, .setUrls ["http://b"], .wait 10, .finish 0 (some [("http://a", true)]) 10, .resume,
        .hearUrls, .read, .ask 10, .finish 1 (some [("http://b", true)]) 10, .resume, .signalStop, .closeUrls]
    ∃ polling, (Polling.start {} [] 0 ["http://a"]).follow moves = some polling ∧
      (∃ last, polling.refreshes.head? = some last ∧ last.urls = ["http://b"]) ∧
      ∀ later last, polling.follow later = some last → last.now < 30010 → last.refreshes.length ≤ 2 := by
  intro moves
  obtain ⟨polling, reached, idle, released, two, rounds⟩ :
      ∃ polling, (Polling.start {} [] 0 ["http://a"]).follow moves = some polling ∧
        polling.IsIdle ∧ polling.IsReleased ∧ polling.refreshes.length = 2 ∧
        ∀ limit, polling.roundsBy limit = Polling.ticksBy 30000 limit 30010 :=
    ⟨_, rfl, ⟨rfl, rfl⟩, ⟨rfl, rfl⟩, rfl, fun _ => Nat.zero_add _⟩
  obtain ⟨-, current, -, -, bounded, -⟩ := refreshes_of_polling {} [] 0 ["http://a"] moves polling reached
  refine ⟨polling, reached, (current idle).resolve_right ?_, fun later last goesOn early => ?_⟩
  · rintro ⟨none, -⟩
    rw [none] at two
    cases two
  · have bound := (bounded released).1 later last goesOn
    rwa [two, rounds, Polling.ticksBy, if_neg (Nat.not_le.mpr early)] at bound

/-- Refreshes after a stop: of a task that has not run yet, and of one whose tick is due when it is stopped. Without an
interval the task has ended, and has refreshed nothing, though nobody stopped it. -/
theorem refresh_after_stop :
    let spawned := Polling.start {} [] 0 ["http://a"]
    let ticking := spawned.follow
      [.begin, .tick, .read, .ask 0, .finish 0 (some [("http://a", true)]) 0, .resume, .wait 30000]
    let idle := Polling.start { timing := { interval := 0 } } [] 0 ["http://a"]
    let line : Timeline := { hosts := [("a", .answers 0 true)], poller := { timing := { interval := 0 } } }
    ((spawned.follow [.signalStop, .closeUrls]).bind (·.follow [.begin, .tick, .read, .ask 0])).map
        (fun last => (last.refreshes, last.poller.nextId)) = some ([⟨["http://a"], 0⟩], 1) ∧
    ((ticking.bind (·.follow [.signalStop, .closeUrls])).bind (·.follow [.tick, .read, .ask 30000])).map
        (fun last => (last.refreshes, last.poller.nextId)) = some ([⟨["http://a"], 1⟩, ⟨["http://a"], 0⟩], 2) ∧
    (idle.follow [.begin]).map (fun last => (last.point, last.stopped, last.closed, last.refreshes)) =
        some (.ended, false, false, []) ∧
    ((line.startPolling ["http://a"]).runTo 0).probed.length = 0 := by
  decide +kernel

end ProxyWatch.Health
