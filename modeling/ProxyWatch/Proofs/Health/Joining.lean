import Mathlib.Data.List.Nodup
import Mathlib.Data.List.Perm.Subperm
import ProxyWatch.Proofs.Health.SafeChecks
import ProxyWatch.Proofs.Health.TimelineHistory
import ProxyWatch.Proofs.Url.Domains

/-! Who shares a batch with whom.

A call joins the batch that was started last or starts one of its own. What becomes of a batch does not
depend on who waits for it: its task ends by itself, and its result is the same for all of its callers. -/
namespace ProxyWatch.Health

namespace Timeline
variable {line : Timeline} {task : BatchTask}

theorem finish_of_unpolled (unpolled : line.polling = none) (task : BatchTask) :
    line.finish task = line.ended task := by
  cases line
  cases unpolled
  rfl

/-- What of a poller and of its tasks the end of a batch leaves alone. -/
theorem ended_frame (line : Timeline) (task : BatchTask) :
    (line.ended task).poller.timing = line.poller.timing ∧
      (line.ended task).poller.batch = line.poller.batch ∧
      (line.ended task).poller.nextId = line.poller.nextId ∧
      (line.ended task).tasks.map (fun task => (task.id, task.alarm, task.result)) =
        line.tasks.map fun task => (task.id, task.alarm, task.result) := by
  refine ⟨?_, ?_, ?_, ?_⟩
  · cases found : task.result <;> simp [ended, found]
  · cases found : task.result <;> simp [ended, found]
  · cases found : task.result <;> simp [ended, found]
  · rw [ended, List.map_map]
    refine List.map_congr_left fun other _ => ?_
    simp only [Function.comp_apply]
    split <;> rfl

/-- The end of a task is told of that task alone. -/
theorem exists_ended_iff (present : task ∈ line.tasks) (id : Nat) :
    (∃ other ∈ (line.ended task).tasks, other.id = id ∧ other.ended = true) ↔
      id = task.id ∨ ∃ other ∈ line.tasks, other.id = id ∧ other.ended = true := by
  constructor
  · rintro ⟨other, member, rfl, ended⟩
    obtain ⟨old, listed, rfl⟩ := List.mem_map.mp member
    split at ended
    · rename_i same
      rw [if_pos same]
      exact .inl same
    · rename_i different
      rw [if_neg different]
      exact .inr ⟨old, listed, rfl, ended⟩
  · rintro (rfl | ⟨old, listed, rfl, ended⟩)
    · exact ⟨_, List.mem_map_of_mem present, by simp⟩
    · refine ⟨_, List.mem_map_of_mem listed, ?_⟩
      split
      · exact ⟨rfl, rfl⟩
      · exact ⟨rfl, ended⟩

theorem task?_of_mem (distinct : (line.tasks.map (·.id)).Nodup) (present : task ∈ line.tasks) :
    line.task? task.id = some task := by
  have isSome : (line.task? task.id).isSome := List.find?_isSome.mpr ⟨task, present, by simp⟩
  obtain ⟨first, found⟩ := Option.isSome_iff_exists.mp isSome
  have same : first.id = task.id := by simpa using List.find?_some found
  rw [found, List.inj_on_of_nodup_map distinct (List.mem_of_find?_eq_some found) present same]

private theorem event_of_unpolled (unpolled : line.polling = none) (member : event ∈ line.events) :
    ∃ task ∈ line.tasks, task.ended = false ∧ event = (task.alarm, .batchEnd task) := by
  simp only [events, unpolled] at member
  obtain ⟨task, running, rfl⟩ := List.mem_map.mp member
  obtain ⟨present, unended⟩ := List.mem_filter.mp running
  exact ⟨task, present, by simpa using unended, rfl⟩

theorem mem_events (present : task ∈ line.tasks) (unended : task.ended = false) :
    (task.alarm, .batchEnd task) ∈ line.events := by
  have running : (task.alarm, Event.batchEnd task) ∈
      (line.tasks.filter (!·.ended)).map fun task => (task.alarm, Event.batchEnd task) :=
    List.mem_map_of_mem (List.mem_filter.mpr ⟨present, by simp [unended]⟩)
  unfold events
  dsimp only
  split
  · split
    · exact List.mem_cons_of_mem _ running
    · exact running
  · exact running

private theorem earlier_due_le (first second : Alarm × Event) :
    (earlier first second).1.due ≤ first.1.due ∧ (earlier first second).1.due ≤ second.1.due := by
  unfold earlier Alarm.isBefore
  split
  · rename_i before
    simp only [Bool.or_eq_true, decide_eq_true_eq, Bool.and_eq_true, beq_iff_eq] at before
    omega
  · rename_i notBefore
    simp only [Bool.or_eq_true, decide_eq_true_eq, Bool.and_eq_true, beq_iff_eq] at notBefore
    omega

private theorem due_le_of_next? (found : line.next? = some next) (member : event ∈ line.events) :
    next.1.due ≤ event.1.due := by
  unfold next? at found
  split at found
  · cases found
  rename_i first rest listed
  rw [listed] at member
  cases found
  clear listed
  -- the first event is what is left of the ones compared so far, so it varies
  induction rest generalizing first event with
  | nil => exact List.mem_singleton.mp member ▸ Nat.le_refl _
  | cons other rest ih =>
    obtain ⟨beforeFirst, beforeOther⟩ := earlier_due_le first other
    have least := ih (earlier first other) List.mem_cons_self
    rcases List.mem_cons.mp member with rfl | later
    · exact Nat.le_trans least beforeFirst
    rcases List.mem_cons.mp later with rfl | last
    · exact Nat.le_trans least beforeOther
    · exact ih _ (List.mem_cons_of_mem _ last)

private theorem step?_of_due [Url.Idna] (present : task ∈ line.tasks) (unended : task.ended = false)
    (due : task.alarm.due ≤ limit) : ∃ next, line.step? limit = some next := by
  have member := mem_events present unended
  cases found : line.next? with
  | none =>
    unfold next? at found
    split at found
    · rename_i empty
      rw [empty] at member
      cases member
    · cases found
  | some event =>
    have first : event.1.due ≤ task.alarm.due := due_le_of_next? found member
    have inTime : ¬ limit < event.1.due := by omega
    simp only [step?, found, if_neg inTime]
    exact ⟨_, rfl⟩

end Timeline

/-- A batch as the call that started it made it: the endpoints of the call as they were given, what the
hosts did then and what the clock read. -/
structure Start where
  id : Nat
  urls : List String
  hosts : Hosts
  reading : Nat

namespace Start
variable [Url.Idna]

def batch (start : Start) : Batch := ⟨start.id, Poller.keyOf start.urls, start.reading⟩

/-- What is probed: every endpoint once, if it is a url. -/
def probes (start : Start) : List Url := (Poller.keyOf start.urls).filterMap Url.parse?

def findings (timeout : Nat) (start : Start) : Dictionary Bool :=
  Health.findings start.hosts timeout (Poller.keyOf start.urls)

end Start

/-- A timeline with those who call for checks. The batches started, the batches completed and the batches
waited for are kept latest first. -/
structure Ledger where
  line : Timeline
  starts : List Start := []
  completed : List Nat := []
  waiting : List Nat := []

namespace Ledger
variable [Url.Idna]

def new (timing : Timing) (hosts : Hosts) : Ledger where
  line := { hosts, poller := { timing } }

/-- A call waits for the batch that it is answered. A number not seen before is that of a new batch. -/
def call (ledger : Ledger) (urls : List String) : Ledger :=
  let (id, line) := ledger.line.request urls
  { ledger with
    line
    starts :=
      if id ∈ ledger.starts.map (·.id) then ledger.starts
      else ⟨id, urls, ledger.line.hosts, ledger.line.reading⟩ :: ledger.starts
    waiting := id :: ledger.waiting }

/-- The batch that an event completes: a task that dies completes nothing. -/
def completing : Timeline.Event → List Nat
  | .batchEnd task => if task.result.isSome then [task.id] else []
  | .tick _ => []

def step? (limit : Nat) (ledger : Ledger) : Option Ledger :=
  (ledger.line.step? limit).map fun line =>
    { ledger with
      line
      completed := (ledger.line.next?.elim [] fun event => completing event.2) ++ ledger.completed }

/-- Whatever comes of calls: time goes by, the clock is set to anything, hosts change, and callers that
have what they wait for, or have given up, leave. -/
inductive Reached (opened : Ledger) : Ledger → Prop where
  | start : Reached opened opened
  | called {ledger} (urls : List String) (reached : Reached opened ledger) :
      Reached opened (ledger.call urls)
  | left {ledger} (place : Nat) (reached : Reached opened ledger) :
      Reached opened { ledger with waiting := ledger.waiting.eraseIdx place }
  | stepped {ledger next} (limit : Nat) (reached : Reached opened ledger)
      (happened : ledger.step? limit = some next) : Reached opened next
  | waited {ledger} (limit : Nat) (reached : Reached opened ledger) :
      Reached opened { ledger with line := { ledger.line with now := max ledger.line.now limit } }
  | set {ledger} (elapsed : Nat) (reached : Reached opened ledger) :
      Reached opened { ledger with line := { ledger.line with clock := ⟨elapsed⟩ } }
  | rehosted {ledger hosts} (safe : Hosts.IsSafe hosts) (reached : Reached opened ledger) :
      Reached opened { ledger with line := { ledger.line with hosts } }

/-- A call must start a batch: there is none, or the last one is of other endpoints, or the time in which
it can be joined has passed. -/
def IsAnew (window : Nat) (ledger : Ledger) (urls : List String) : Prop :=
  ∀ last, ledger.starts.head? = some last →
    (∃ url, ¬ (url ∈ urls ↔ url ∈ last.urls)) ∨ window ≤ ledger.line.reading - last.reading

/-- What is known of a ledger wherever it stands. -/
structure Keeps (timing : Timing) (ledger : Ledger) : Prop where
  unpolled : ledger.line.polling = none
  safe : ledger.line.hosts.IsSafe
  held : ledger.line.poller.timing = timing
  ids : ledger.starts.map (·.id) = (List.range ledger.line.poller.nextId).reverse
  batch : ledger.line.poller.batch = ledger.starts.head?.map Start.batch
  tasks : ledger.line.tasks.map (fun task => (task.id, task.result)) =
    ledger.starts.map fun start => (start.id, some (start.findings timing.probeTimeout))
  probed : ledger.line.probed = ledger.starts.flatMap (·.probes.reverse)
  completed : ∀ id, id ∈ ledger.completed ↔ ∃ task ∈ ledger.line.tasks, task.id = id ∧ task.ended = true
  once : ledger.completed.Nodup
  served : ∀ id ∈ ledger.waiting, id ∈ ledger.starts.map (·.id)

variable {timing : Timing} {ledger next opened later : Ledger} {urls : List String} {start : Start}

private theorem keeps_new (safe : Hosts.IsSafe hosts) : (new timing hosts).Keeps timing where
  unpolled := rfl
  safe := safe
  held := rfl
  ids := rfl
  batch := rfl
  tasks := rfl
  probed := rfl
  completed := by simp [new]
  once := List.nodup_nil
  served := by simp [new]

theorem Keeps.distinct (keeps : ledger.Keeps timing) : (ledger.starts.map (·.id)).Nodup := by
  rw [keeps.ids, List.nodup_reverse]
  exact List.nodup_range

theorem Keeps.task_ids (keeps : ledger.Keeps timing) :
    ledger.line.tasks.map (·.id) = ledger.starts.map (·.id) := by
  have paired := congrArg (List.map Prod.fst) keeps.tasks
  rw [List.map_map, List.map_map] at paired
  exact paired

theorem Keeps.tasks_distinct (keeps : ledger.Keeps timing) : (ledger.line.tasks.map (·.id)).Nodup :=
  keeps.task_ids ▸ keeps.distinct

theorem Keeps.exists_task (keeps : ledger.Keeps timing) (member : start ∈ ledger.starts) :
    ∃ task ∈ ledger.line.tasks, task.id = start.id ∧
      task.result = some (start.findings timing.probeTimeout) := by
  have listed : (start.id, some (start.findings timing.probeTimeout)) ∈
      ledger.line.tasks.map fun task => (task.id, task.result) := by
    rw [keeps.tasks]
    exact List.mem_map_of_mem member
  obtain ⟨task, present, same⟩ := List.mem_map.mp listed
  exact ⟨task, present, congrArg Prod.fst same, congrArg Prod.snd same⟩

/-- All callers of a batch get what its check finds. -/
theorem Keeps.resultOf (keeps : ledger.Keeps timing) (member : start ∈ ledger.starts) :
    ledger.line.resultOf start.id = start.findings timing.probeTimeout := by
  obtain ⟨task, present, same, result⟩ := keeps.exists_task member
  rw [Timeline.resultOf, ← same, Timeline.task?_of_mem keeps.tasks_distinct present, Option.bind_some, result,
    Option.getD_some]

theorem Keeps.call_joined (keeps : ledger.Keeps timing) (joins : ¬ ledger.IsAnew timing.dedupWindow urls) :
    ∃ last, ledger.starts.head? = some last ∧
      ledger.call urls = { ledger with waiting := last.id :: ledger.waiting } := by
  simp only [IsAnew, Classical.not_forall, not_or, not_exists, Classical.not_not, Nat.not_le] at joins
  obtain ⟨last, newest, same, fresh⟩ := joins
  have batch : ledger.line.poller.batch = some last.batch := by rw [keeps.batch, newest, Option.map_some]
  have answer : ledger.line.poller.request urls ledger.line.reading = (last.id, ledger.line.poller) := by
    simp [Poller.request, Poller.isJoined, batch, Start.batch, keeps.held, fresh,
      Poller.keyOf_eq_iff.mpr fun url => (same url).symm]
  have request : ledger.line.request urls = (last.id, ledger.line) := by simp [Timeline.request, answer]
  have seen : last.id ∈ ledger.starts.map (·.id) := List.mem_map_of_mem (List.mem_of_head? newest)
  exact ⟨last, newest, by simp only [call, request, if_pos seen]⟩

/-- The batch that a call starts. -/
def begin (ledger : Ledger) (urls : List String) : Start :=
  ⟨ledger.line.poller.nextId, urls, ledger.line.hosts, ledger.line.reading⟩

/-- A call that joins no batch starts one: its task finds what the hosts do now. -/
theorem Keeps.call_begun (keeps : ledger.Keeps timing) (anew : ledger.IsAnew timing.dedupWindow urls) :
    (ledger.begin urls).id ∉ ledger.starts.map (·.id) ∧ ∃ alarm line,
      ledger.call urls = { ledger with
        line
        starts := ledger.begin urls :: ledger.starts
        waiting := (ledger.begin urls).id :: ledger.waiting } ∧
      line.polling = none ∧ line.hosts = ledger.line.hosts ∧
      line.poller = ledger.line.poller.startBatch urls ledger.line.reading ∧
      line.tasks =
        ⟨(ledger.begin urls).id, alarm, some ((ledger.begin urls).findings timing.probeTimeout), false⟩ ::
          ledger.line.tasks ∧
      line.probed = (ledger.begin urls).probes.reverse ++ ledger.line.probed := by
  have answer : ledger.line.poller.request urls ledger.line.reading =
      (ledger.line.poller.nextId, ledger.line.poller.startBatch urls ledger.line.reading) := by
    cases newest : ledger.starts.head? with
    | none =>
      have batch : ledger.line.poller.batch = none := by rw [keeps.batch, newest, Option.map_none]
      simp [Poller.request, batch]
    | some last =>
      have batch : ledger.line.poller.batch = some last.batch := by
        rw [keeps.batch, newest, Option.map_some]
      have apart : ledger.line.poller.isJoined urls ledger.line.reading = false := by
        simp only [Poller.isJoined, batch, Start.batch, keeps.held, Bool.and_eq_false_iff, beq_eq_false_iff_ne,
          decide_eq_false_iff_not, Nat.not_lt]
        refine (anew last newest).imp_left fun ⟨url, differs⟩ same => differs ?_
        exact (Poller.keyOf_eq_iff.mp same url).symm
      simp [Poller.request, batch, apart]
  have fresh : ledger.line.poller.nextId ∉ ledger.starts.map (·.id) := by
    rw [keeps.ids, List.mem_reverse, List.mem_range]
    exact Nat.lt_irrefl _
  obtain ⟨probed, result⟩ := checkAll_of_safe keeps.safe timing.probeTimeout (Poller.keyOf urls)
  have begun : (ledger.line.poller.startBatch urls ledger.line.reading).nextId ≠ ledger.line.poller.nextId :=
    Nat.succ_ne_self _
  have timeout : (ledger.line.poller.startBatch urls ledger.line.reading).timing.probeTimeout =
      timing.probeTimeout := congrArg _ keeps.held
  refine ⟨fresh, ?_⟩
  simp only [call, Timeline.request, answer, if_neg begun, timeout, result, probed, if_neg fresh]
  exact ⟨_, _, rfl, keeps.unpolled, rfl, rfl, rfl, rfl⟩

theorem Keeps.call (keeps : ledger.Keeps timing) (urls : List String) : (ledger.call urls).Keeps timing := by
  by_cases anew : ledger.IsAnew timing.dedupWindow urls
  · obtain ⟨-, alarm, line, called, unpolled, hosts, poller, tasks, probed⟩ := keeps.call_begun anew
    rw [called]
    constructor
    · exact unpolled
    · exact hosts ▸ keeps.safe
    · exact poller ▸ keeps.held
    · simp [poller, Poller.startBatch, begin, keeps.ids, List.range_succ]
    · exact poller ▸ rfl
    · simp [tasks, keeps.tasks]
    · simp [probed, keeps.probed]
    · intro id
      rw [keeps.completed, tasks]
      simp
    · exact keeps.once
    · intro id member
      rcases List.mem_cons.mp member with rfl | earlier
      · exact List.mem_cons_self
      · exact List.mem_cons_of_mem _ (keeps.served id earlier)
  · obtain ⟨last, newest, called⟩ := keeps.call_joined anew
    rw [called]
    refine { keeps with served := fun id member => ?_ }
    rcases List.mem_cons.mp member with rfl | earlier
    · exact List.mem_map_of_mem (List.mem_of_head? newest)
    · exact keeps.served id earlier

theorem Keeps.step_cases (keeps : ledger.Keeps timing) (happened : ledger.step? limit = some next) :
    ∃ task ∈ ledger.line.tasks, task.ended = false ∧ next = { ledger with
      line := Timeline.ended { ledger.line with now := max ledger.line.now task.alarm.due } task
      completed := task.id :: ledger.completed } := by
  obtain ⟨line, stepped, rfl⟩ := Option.map_eq_some_iff.mp happened
  cases found : ledger.line.next? with
  | none => simp [Timeline.step?, found] at stepped
  | some event =>
    obtain ⟨task, present, unended, rfl⟩ :=
      Timeline.event_of_unpolled keeps.unpolled (Timeline.mem_of_next? found)
    have listed : (task.id, task.result) ∈
        ledger.starts.map fun start => (start.id, some (start.findings timing.probeTimeout)) := by
      rw [← keeps.tasks]
      exact List.mem_map_of_mem present
    obtain ⟨start, -, same⟩ := List.mem_map.mp listed
    have result : task.result = some (start.findings timing.probeTimeout) := (congrArg Prod.snd same).symm
    have completes : completing (.batchEnd task) = [task.id] := by simp [completing, result]
    refine ⟨task, present, unended, ?_⟩
    simp only [Timeline.step?, found] at stepped
    split at stepped
    · cases stepped
    · cases stepped
      rw [← Timeline.finish_of_unpolled (by exact keeps.unpolled)]
      simp [completes]

theorem Keeps.step (keeps : ledger.Keeps timing) (happened : ledger.step? limit = some next) :
    next.Keeps timing := by
  obtain ⟨task, present, unended, rfl⟩ := keeps.step_cases happened
  have unfinished : task.id ∉ ledger.completed := by
    rw [keeps.completed]
    rintro ⟨other, listed, same, ended⟩
    rw [List.inj_on_of_nodup_map keeps.tasks_distinct listed present same, unended] at ended
    cases ended
  obtain ⟨timing, batch, nextId, tasks⟩ :=
    Timeline.ended_frame { ledger.line with now := max ledger.line.now task.alarm.due } task
  constructor
  · exact keeps.unpolled
  · exact keeps.safe
  · exact timing.trans keeps.held
  · rw [nextId]
    exact keeps.ids
  · exact batch.trans keeps.batch
  · rw [← keeps.tasks]
    have results := congrArg (List.map fun kept : Nat × Alarm × Option (Dictionary Bool) => (kept.1, kept.2.2)) tasks
    simpa only [List.map_map, Function.comp_def] using results
  · exact keeps.probed
  · intro id
    rw [List.mem_cons, keeps.completed]
    exact (Timeline.exists_ended_iff (by exact present) id).symm
  · exact List.nodup_cons.mpr ⟨unfinished, keeps.once⟩
  · exact keeps.served

theorem Reached.keeps (reached : Reached opened ledger) (known : opened.Keeps timing) :
    ledger.Keeps timing := by
  induction reached with
  | start => exact known
  | called urls _ keeps => exact keeps.call urls
  | stepped limit _ happened keeps => exact keeps.step happened
  | left place _ keeps =>
    exact { keeps with served := fun id member => keeps.served id (List.mem_of_mem_eraseIdx member) }
  | waited limit _ keeps => exact { keeps with }
  | set elapsed _ keeps => exact { keeps with }
  | rehosted safe _ keeps => exact { keeps with safe }

theorem Reached.trans (first : Reached opened ledger) (second : Reached ledger later) :
    Reached opened later := by
  induction second with
  | start => exact first
  | called urls _ ih => exact ih.called urls
  | left place _ ih => exact ih.left place
  | stepped limit _ happened ih => exact ih.stepped limit happened
  | waited limit _ ih => exact ih.waited limit
  | set elapsed _ ih => exact ih.set elapsed
  | rehosted safe _ ih => exact ih.rehosted safe

theorem Reached.starts_suffix (reached : Reached ledger later) : ledger.starts <:+ later.starts := by
  induction reached with
  | start => exact List.suffix_rfl
  | left _ _ ih | waited _ _ ih | set _ _ ih | rehosted _ _ ih => exact ih
  | stepped limit _ happened ih =>
    obtain ⟨line, -, rfl⟩ := Option.map_eq_some_iff.mp happened
    exact ih
  | called urls _ ih =>
    unfold Ledger.call
    dsimp only
    split
    · exact ih
    · exact ih.trans (List.suffix_cons _ _)

private theorem Keeps.all_ended (keeps : ledger.Keeps timing)
    (all : ledger.line.tasks.length ≤ ledger.completed.length) {task : BatchTask}
    (present : task ∈ ledger.line.tasks) : task.ended = true := by
  have known : ledger.completed ⊆ ledger.line.tasks.map (·.id) := by
    intro id member
    obtain ⟨other, listed, rfl, -⟩ := (keeps.completed id).mp member
    exact List.mem_map_of_mem listed
  have perm : ledger.completed.Perm (ledger.line.tasks.map (·.id)) := by
    refine (List.subperm_of_subset keeps.once known).perm_of_length_le ?_
    rwa [List.length_map]
  have completed : task.id ∈ ledger.completed := perm.mem_iff.mpr (List.mem_map_of_mem present)
  obtain ⟨other, listed, same, ended⟩ := (keeps.completed task.id).mp completed
  rwa [List.inj_on_of_nodup_map keeps.tasks_distinct listed present same] at ended

/-- Every task that is due ends, whether it is waited for or not. -/
theorem Keeps.exists_iterate (keeps : ledger.Keeps timing) (limit fuel : Nat)
    (enough : ledger.line.tasks.length ≤ ledger.completed.length + fuel) :
    ∃ done, Reached ledger done ∧ done.line = Timeline.iterate limit fuel ledger.line ∧
      done.line.now ≤ max ledger.line.now limit ∧
      done.line.tasks.map (fun task => (task.id, task.alarm, task.result)) =
        ledger.line.tasks.map (fun task => (task.id, task.alarm, task.result)) ∧
      ∀ task ∈ done.line.tasks, task.alarm.due ≤ limit → task.ended = true := by
  induction fuel generalizing ledger with
  | zero =>
    exact ⟨ledger, .start, rfl, Nat.le_max_left _ _, rfl, fun task present _ =>
      keeps.all_ended enough present⟩
  | succ fuel ih =>
    cases stepped : ledger.line.step? limit with
    | none =>
      refine ⟨ledger, .start, by rw [Timeline.iterate, stepped], Nat.le_max_left _ _, rfl, ?_⟩
      intro task present due
      cases unended : task.ended with
      | true => rfl
      | false =>
        obtain ⟨next, possible⟩ := Timeline.step?_of_due present unended due
        rw [stepped] at possible
        cases possible
    | some line =>
      obtain ⟨next, happened, same⟩ : ∃ next, ledger.step? limit = some next ∧ next.line = line := by
        simp [step?, stepped]
      have bound := Timeline.now_of_step? stepped
      obtain ⟨task, present, unended, rfl⟩ := keeps.step_cases happened
      obtain ⟨-, -, -, tasks⟩ :=
        Timeline.ended_frame { ledger.line with now := max ledger.line.now task.alarm.due } task
      have fewer : (Timeline.ended { ledger.line with now := max ledger.line.now task.alarm.due }
          task).tasks.length ≤ (task.id :: ledger.completed).length + fuel := by
        simp only [Timeline.ended, List.length_map, List.length_cons]
        omega
      obtain ⟨done, reached, iterated, now, kept, ended⟩ := ih (keeps.step happened) fewer
      refine ⟨done, (Reached.start.stepped limit happened).trans reached, ?_, ?_, kept.trans tasks, ended⟩
      · rw [iterated, same, Timeline.iterate, stepped]
      · rw [← same] at bound
        omega

/-- Who waits for a batch sees it completed. -/
theorem Keeps.exists_await (keeps : ledger.Keeps timing) (member : start ∈ ledger.starts) :
    ∃ done, Reached ledger done ∧ done.line = ledger.line.await start.id ∧ start.id ∈ done.completed := by
  obtain ⟨task, present, same, -⟩ := keeps.exists_task member
  have due : ledger.line.endOf start.id = task.alarm.due := by
    rw [Timeline.endOf, ← same, Timeline.task?_of_mem keeps.tasks_distinct present]
    rfl
  have enough : ledger.line.tasks.length ≤
      ledger.completed.length + ledger.line.budget task.alarm.due := by
    unfold Timeline.budget
    omega
  obtain ⟨done, reached, iterated, now, kept, ended⟩ := keeps.exists_iterate task.alarm.due _ enough
  have later := reached.waited (max ledger.line.now task.alarm.due)
  refine ⟨_, later, ?_, ?_⟩
  · rw [Timeline.await, Timeline.runTo, due, ← iterated, Nat.max_eq_right now]
  · have listed : (task.id, task.alarm, task.result) ∈
        done.line.tasks.map fun task => (task.id, task.alarm, task.result) := by
      rw [kept]
      exact List.mem_map_of_mem present
    obtain ⟨other, found, equal⟩ := List.mem_map.mp listed
    have alarm : other.alarm = task.alarm := congrArg (·.2.1) equal
    have number : other.id = start.id := (congrArg Prod.fst equal).trans same
    exact ((reached.keeps keeps).completed start.id).mpr
      ⟨other, found, number, ended other found (Nat.le_of_eq (congrArg Alarm.due alarm))⟩

end Ledger

/-- Whatever comes of calls whose probes do not die. A call starts a batch if there is none, or if the last
one is of other endpoints or too old to be joined; any other call joins the last one and changes nothing.
Each batch probes all of its endpoints that are urls, each of them once. It is completed once at most, and
once it has been waited for, whoever waits then; and at any time all of its callers get the same of it:
what the check finds with which it was started. -/
theorem batches_of_calls [Url.Idna] (timing : Timing) (hosts : Hosts) (safe : hosts.IsSafe) (ledger : Ledger)
    (reached : Ledger.Reached (.new timing hosts) ledger) :
    (∀ urls,
      (ledger.IsAnew timing.dedupWindow urls →
        (ledger.begin urls).id ∉ ledger.starts.map (·.id) ∧
        (ledger.call urls).starts = ledger.begin urls :: ledger.starts ∧
        (ledger.call urls).waiting = (ledger.begin urls).id :: ledger.waiting) ∧
      (¬ ledger.IsAnew timing.dedupWindow urls →
        ∃ last, ledger.starts.head? = some last ∧
          ledger.call urls = { ledger with waiting := last.id :: ledger.waiting })) ∧
    (ledger.line.probed.reverse = ledger.starts.reverse.flatMap Start.probes ∧
      ∀ start ∈ ledger.starts, (Poller.keyOf start.urls).Nodup ∧
        ∀ url, url ∈ Poller.keyOf start.urls ↔ url ∈ start.urls) ∧
    (ledger.completed.Nodup ∧ ∀ id ∈ ledger.completed, id ∈ ledger.starts.map (·.id)) ∧
    ((ledger.starts.map (·.id)).Nodup ∧ ∀ id ∈ ledger.waiting, id ∈ ledger.starts.map (·.id)) ∧
    ∀ start ∈ ledger.starts, ∀ later, Ledger.Reached ledger later →
      start ∈ later.starts ∧
      later.line.resultOf start.id = start.findings timing.probeTimeout ∧
      ∃ done, Ledger.Reached later done ∧ done.line = later.line.await start.id ∧
        start.id ∈ done.completed ∧ done.line.resultOf start.id = start.findings timing.probeTimeout := by
  have keeps := reached.keeps (Ledger.keeps_new safe)
  refine ⟨fun urls => ⟨fun anew => ?_, keeps.call_joined⟩, ⟨?_, ?_⟩, ⟨keeps.once, ?_⟩,
    ⟨keeps.distinct, keeps.served⟩, ?_⟩
  · obtain ⟨fresh, alarm, line, called, -⟩ := keeps.call_begun anew
    rw [called]
    exact ⟨fresh, rfl, rfl⟩
  · rw [keeps.probed]
    simp [List.reverse_flatMap, Function.comp_def]
  · exact fun start _ => ⟨Poller.keyOf_nodup _, fun _ => Poller.mem_keyOf⟩
  · intro id member
    obtain ⟨task, present, rfl, -⟩ := (keeps.completed id).mp member
    rw [← keeps.task_ids]
    exact List.mem_map_of_mem present
  · intro start member later goesOn
    have kept := goesOn.keeps keeps
    have member := goesOn.starts_suffix.subset member
    obtain ⟨done, awaited, line, completed⟩ := kept.exists_await member
    have result := (awaited.keeps kept).resultOf (awaited.starts_suffix.subset member)
    exact ⟨member, kept.resultOf member, done, awaited, line, completed, result⟩

/-- The same endpoints in another order and with one of them twice: the call joins. A window later they are
checked anew. Nobody waits for the first batch any more, and it is completed all the same. -/
theorem batches_of_calls_repeated :
    let hosts : Hosts := [("a", .answers 10 true)]
    let first := (Ledger.new {} hosts).call ["http://b", "http://a"]
    let left : Ledger := { first with waiting := first.waiting.eraseIdx 0 }
    let later : Ledger := { left with line := { left.line with clock := ⟨2000⟩ } }
    hosts.IsSafe ∧ Ledger.Reached (.new {} hosts) later ∧ left.waiting = [] ∧
    (left.call ["http://a", "http://b", "http://a"]).waiting = [0] ∧
    (left.call ["http://a", "http://b", "http://a"]).starts.length = 1 ∧
    (later.call ["http://a", "http://b"]).starts.length = 2 ∧
    ∃ done, Ledger.Reached later done ∧ 0 ∈ done.completed ∧
      done.line.resultOf 0 = [("http://a", true), ("http://b", false)] := by
  intro hosts first left later
  have safe : hosts.IsSafe := by
    intro url delay
    simp only [hosts, Hosts.behaviour, Dictionary.get?]
    split <;> simp
  have abandoned : Ledger.Reached (.new {} hosts) left := .left 0 (.called _ .start)
  have reached : Ledger.Reached (.new {} hosts) later := .set 2000 abandoned
  obtain ⟨soon, -⟩ := batches_of_calls {} hosts safe left abandoned
  obtain ⟨late, -, -, -, served⟩ := batches_of_calls {} hosts safe later reached
  have started : left.starts = [⟨0, ["http://b", "http://a"], hosts, 0⟩] := rfl
  have joins : ¬ left.IsAnew 2000 ["http://a", "http://b", "http://a"] := by
    intro anew
    obtain ⟨url, differs⟩ | late := anew _ (congrArg List.head? started)
    · exact differs (by simp [or_comm])
    · exact absurd late (by decide)
  have anew : later.IsAnew 2000 ["http://a", "http://b"] := by
    intro last newest
    cases newest
    exact .inr (by decide)
  obtain ⟨last, newest, joined⟩ := (soon _).2 joins
  obtain ⟨-, begun, -⟩ := (late _).1 anew
  obtain ⟨-, -, done, awaited, -, completed, result⟩ := served _ (started ▸ List.mem_singleton_self _) later .start
  cases newest
  refine ⟨safe, reached, rfl, ?_, ?_, ?_, done, awaited, completed, ?_⟩
  · rw [joined]
    rfl
  · rw [joined]
    rfl
  · rw [begun]
    rfl
  · rw [result]
    decide +kernel

end ProxyWatch.Health
