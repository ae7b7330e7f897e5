import ProxyWatch.Health.Poller
import ProxyWatch.Proofs.Data.Ordered

/-! Whatever can happen to a poller, in any order.

Its clock goes on, checks are asked for, and the tasks of batches end with any result in any order or
die. The clock is read before the state is taken hold of: a reading may be older than the clock, but a
batch reads the clock no earlier than it was started. -/
namespace ProxyWatch.Health

/-- The result of a batch, in any order and with no url twice. -/
structure Findings where
  entries : Dictionary Bool
  distinct : entries.IsDistinct

inductive Occurrence where
  | pass (duration : Nat)
  | request (urls : List String) (reading : Nat)
  /-- The task of a batch ends. One that has died has no result. -/
  | finish (id : Nat) (outcome : Option Findings) (reading : Nat)

/-- The task of a batch, and the clock when it was started. -/
structure Running where
  id : Nat
  begun : Nat

/-- A batch that was applied, and the reading of the clock at its completion. -/
structure Applied where
  result : Dictionary Bool
  time : Nat

/-- A poller with its running tasks, and what has become of it. The batches started and the batches
applied are kept latest first. -/
structure History where
  poller : Poller
  clock : Nat := 0
  started : List Nat := []
  running : List Running := []
  applied : List Applied := []

namespace History

def start (timing : Timing) : History where
  poller := { timing }

/-- A request whose answer is a number not seen before has started a batch. -/
def request (history : History) (urls : List String) (reading : Nat) : History :=
  let (id, poller) := history.poller.request urls reading
  if id ∈ history.started then { history with poller }
  else
    { history with
      poller
      started := id :: history.started
      running := ⟨id, history.clock⟩ :: history.running }

/-- A batch is applied if it has a result and no newer batch has been started. -/
def finish (history : History) (id : Nat) (outcome : Option Findings) (reading : Nat) : History :=
  let rest := history.running.filter (·.id != id)
  match outcome with
  | none => { history with running := rest }
  | some findings =>
    { history with
      poller := history.poller.complete id findings.entries reading
      running := rest
      applied :=
        if history.started.head? = some id then ⟨findings.entries, reading⟩ :: history.applied
        else history.applied }

/-- What cannot happen changes nothing: readings of a clock that is not there yet, ends of tasks that are
not running, and tasks that read the clock before they were started. -/
def perform (history : History) : Occurrence → History
  | .pass duration => { history with clock := history.clock + duration }
  | .request urls reading =>
    if reading ≤ history.clock then history.request urls reading else history
  | .finish id outcome reading =>
    match history.running.find? (·.id == id) with
    | none => history
    | some task =>
      if task.begun ≤ reading ∧ reading ≤ history.clock then history.finish id outcome reading
      else history

def follow (history : History) (occurrences : List Occurrence) : History :=
  occurrences.foldl perform history

variable {history next : History} {occurrence : Occurrence} {id : Nat}

theorem follow_invariant (property : History → Prop)
    (preserves : ∀ history occurrence, property history → property (history.perform occurrence))
    (occurrences : List Occurrence) (holds : property history) : property (history.follow occurrences) := by
  induction occurrences generalizing history with
  | nil => exact holds
  | cons occurrence rest ih => exact ih (preserves history occurrence holds)

theorem follow_perform (history : History) (occurrences : List Occurrence) (occurrence : Occurrence) :
    (history.follow occurrences).perform occurrence = history.follow (occurrences ++ [occurrence]) := by
  rw [follow, follow, List.foldl_append]
  rfl

/-- What the numbers of the batches and the readings of the clock keep to. -/
structure IsTimely (history : History) : Prop where
  started : history.started = (List.range history.poller.nextId).reverse
  joinable : ∀ batch, history.poller.batch = some batch → batch.id < history.poller.nextId
  running : ∀ task ∈ history.running, task.id < history.poller.nextId
  past : ∀ batch ∈ history.applied, batch.time ≤ history.clock
  /-- The newest batch was started after all that have been applied. -/
  newest : ∀ task ∈ history.running, task.id + 1 = history.poller.nextId →
    ∀ batch ∈ history.applied, batch.time ≤ task.begun

/-- What an occurrence does: it changes nothing that a board shows, or a batch is applied. -/
inductive Outcome (history next : History) : Prop where
  | quiet (statuses : next.poller.statuses = history.poller.statuses)
      (transitions : next.poller.transitions = history.poller.transitions)
      (changes : next.poller.changes = history.poller.changes)
      (timing : next.poller.timing = history.poller.timing)
      (applied : next.applied = history.applied)
  | applied (findings : Findings) (id reading : Nat)
      (newest : history.poller.nextId = id + 1)
      (latest : ∀ batch ∈ history.applied, batch.time ≤ reading)
      (poller : next.poller = history.poller.complete id findings.entries reading)
      (applied : next.applied = ⟨findings.entries, reading⟩ :: history.applied)

theorem isTimely_start (timing : Timing) : (start timing).IsTimely where
  started := rfl
  joinable _ found := by cases found
  running _ member := by cases member
  past _ member := by cases member
  newest _ member := by cases member

theorem IsTimely.mem_started_iff (timely : history.IsTimely) :
    id ∈ history.started ↔ id < history.poller.nextId := by
  rw [timely.started, List.mem_reverse, List.mem_range]

theorem IsTimely.head?_started_iff (timely : history.IsTimely) :
    history.started.head? = some id ↔ history.poller.nextId = id + 1 := by
  rw [timely.started, List.head?_reverse]
  cases count : history.poller.nextId with
  | zero => simp
  | succ last => simp [List.range_succ]

end History

namespace Poller
variable {poller : Poller} {id : Nat}

theorem request_cases (poller : Poller) (urls : List String) (now : Nat) :
    (∃ batch, poller.batch = some batch ∧ poller.request urls now = (batch.id, poller)) ∨
      poller.request urls now = (poller.nextId, poller.startBatch urls now) := by
  unfold request
  split
  · rename_i batch found
    split
    · exact .inl ⟨batch, found, rfl⟩
    · exact .inr rfl
  · exact .inr rfl

theorem complete_of_superseded (superseded : poller.nextId ≠ id + 1) (result : Dictionary Bool)
    (now : Nat) : poller.complete id result now = poller := by
  simp [complete, superseded]

@[simp] theorem complete_batch (poller : Poller) (id : Nat) (result : Dictionary Bool) (now : Nat) :
    (poller.complete id result now).batch = poller.batch := by
  unfold complete
  split <;> rfl

@[simp] theorem complete_nextId (poller : Poller) (id : Nat) (result : Dictionary Bool) (now : Nat) :
    (poller.complete id result now).nextId = poller.nextId := by
  unfold complete
  split <;> rfl

@[simp] theorem complete_timing (poller : Poller) (id : Nat) (result : Dictionary Bool) (now : Nat) :
    (poller.complete id result now).timing = poller.timing := by
  unfold complete
  split <;> rfl

end Poller

namespace History
variable {history next : History} {id reading : Nat} {urls : List String}

/-- The history in which a batch has been started. -/
def begin (history : History) (urls : List String) (reading : Nat) : History :=
  { history with
    poller := history.poller.startBatch urls reading
    started := history.poller.nextId :: history.started
    running := ⟨history.poller.nextId, history.clock⟩ :: history.running }

theorem IsTimely.request_joined (timely : history.IsTimely) {batch : Batch}
    (found : history.poller.batch = some batch)
    (answer : history.poller.request urls reading = (batch.id, history.poller)) :
    history.request urls reading = history := by
  have seen : batch.id ∈ history.started := timely.mem_started_iff.mpr (timely.joinable batch found)
  simp [request, answer, seen]

theorem IsTimely.request_begun (timely : history.IsTimely)
    (answer : history.poller.request urls reading =
      (history.poller.nextId, history.poller.startBatch urls reading)) :
    history.request urls reading = history.begin urls reading := by
  have fresh : history.poller.nextId ∉ history.started := fun seen =>
    Nat.lt_irrefl _ (timely.mem_started_iff.mp seen)
  simp [request, answer, fresh, begin]

theorem IsTimely.begin (timely : history.IsTimely) (urls : List String) (reading : Nat) :
    (history.begin urls reading).IsTimely where
  started := by
    simp [History.begin, Poller.startBatch, timely.started, List.range_succ]
  joinable batch found := by
    cases found
    exact Nat.lt_succ_self _
  running task member := by
    rcases List.mem_cons.mp member with rfl | old
    · exact Nat.lt_succ_self _
    · exact Nat.lt_succ_of_lt (timely.running task old)
  past := timely.past
  newest task member isNewest := by
    rcases List.mem_cons.mp member with rfl | old
    · exact timely.past
    · have older := timely.running task old
      simp only [History.begin, Poller.startBatch] at isNewest
      omega

private theorem IsTimely.finish_outcome (timely : history.IsTimely) (member : task ∈ history.running)
    (afterStart : task.begun ≤ reading) (outcome : Option Findings) :
    Outcome history (history.finish task.id outcome reading) := by
  cases outcome with
  | none => exact .quiet rfl rfl rfl rfl rfl
  | some findings =>
    by_cases newest : history.poller.nextId = task.id + 1
    · refine .applied findings task.id reading newest ?_ rfl ?_
      · intro batch earlier
        exact Nat.le_trans (timely.newest task member newest.symm batch earlier) afterStart
      · simp [History.finish, timely.head?_started_iff.mpr newest]
    · have superseded : history.started.head? ≠ some task.id := fun isHead =>
        newest (timely.head?_started_iff.mp isHead)
      have ignored := Poller.complete_of_superseded newest findings.entries reading
      refine .quiet ?_ ?_ ?_ ?_ ?_ <;> simp [History.finish, ignored, superseded]

theorem finish_applied (member : batch ∈ (history.finish id outcome reading).applied) :
    batch ∈ history.applied ∨
      history.started.head? = some id ∧ batch.time = reading := by
  cases outcome with
  | none => exact .inl member
  | some findings =>
    simp only [History.finish] at member
    split at member
    · rename_i isHead
      rcases List.mem_cons.mp member with rfl | earlier
      · exact .inr ⟨isHead, rfl⟩
      · exact .inl earlier
    · exact .inl member

theorem finish_frame (history : History) (id : Nat) (outcome : Option Findings) (reading : Nat) :
    (history.finish id outcome reading).poller.nextId = history.poller.nextId ∧
      (history.finish id outcome reading).poller.batch = history.poller.batch ∧
      (history.finish id outcome reading).started = history.started ∧
      (history.finish id outcome reading).clock = history.clock ∧
      (history.finish id outcome reading).running = history.running.filter (·.id != id) := by
  cases outcome with
  | none => exact ⟨rfl, rfl, rfl, rfl, rfl⟩
  | some findings =>
    exact ⟨Poller.complete_nextId .., Poller.complete_batch .., rfl, rfl, rfl⟩

theorem IsTimely.finish (timely : history.IsTimely) (id : Nat) (outcome : Option Findings)
    (beforeNow : reading ≤ history.clock) : (history.finish id outcome reading).IsTimely := by
  obtain ⟨nextId, batch, started, clock, running⟩ := finish_frame history id outcome reading
  constructor
  · rw [started, nextId, timely.started]
  · rw [batch, nextId]
    exact timely.joinable
  · rw [running, nextId]
    exact fun task member => timely.running task (List.mem_filter.mp member).1
  · intro batch member
    rw [clock]
    rcases finish_applied member with earlier | ⟨_, rfl⟩
    · exact timely.past batch earlier
    · exact beforeNow
  · rw [running, nextId]
    intro task member isNewest batch applied
    obtain ⟨old, other⟩ := List.mem_filter.mp member
    rcases finish_applied applied with earlier | ⟨isHead, _⟩
    · exact timely.newest task old isNewest batch earlier
    · -- the batch that has just been applied was the newest, and it runs no more
      have same := timely.head?_started_iff.mp isHead
      simp only [bne_iff_ne, ne_eq] at other
      omega

theorem IsTimely.pass (timely : history.IsTimely) (duration : Nat) :
    (history.perform (.pass duration)).IsTimely where
  started := timely.started
  joinable := timely.joinable
  running := timely.running
  past batch member := Nat.le_add_right_of_le (timely.past batch member)
  newest := timely.newest

theorem IsTimely.perform_cases (timely : history.IsTimely) (occurrence : Occurrence) :
    (history.perform occurrence).IsTimely ∧ Outcome history (history.perform occurrence) := by
  have unchanged : history.IsTimely ∧ Outcome history history := ⟨timely, .quiet rfl rfl rfl rfl rfl⟩
  cases occurrence with
  | pass duration => exact ⟨timely.pass duration, .quiet rfl rfl rfl rfl rfl⟩
  | request urls reading =>
    simp only [History.perform]
    split
    · rcases history.poller.request_cases urls reading with ⟨batch, found, answer⟩ | answer
      · rw [timely.request_joined found answer]
        exact unchanged
      · rw [timely.request_begun answer]
        exact ⟨timely.begin urls reading, .quiet rfl rfl rfl rfl rfl⟩
    · exact unchanged
  | finish id outcome reading =>
    simp only [History.perform]
    split
    · exact unchanged
    rename_i task found
    split
    · rename_i possible
      have same : task.id = id := by simpa using List.find?_some found
      subst same
      exact ⟨timely.finish task.id outcome possible.2,
        timely.finish_outcome (List.mem_of_find?_eq_some found) possible.1 outcome⟩
    · exact unchanged

theorem isTimely_follow (timing : Timing) (occurrences : List Occurrence) :
    ((start timing).follow occurrences).IsTimely :=
  follow_invariant _ (fun _ occurrence timely => (timely.perform_cases occurrence).1) occurrences
    (isTimely_start timing)

end History
end ProxyWatch.Health
