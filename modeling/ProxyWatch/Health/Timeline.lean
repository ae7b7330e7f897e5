import ProxyWatch.Health.Check
import ProxyWatch.Health.Clock
import ProxyWatch.Health.Poller

/-! A poller in virtual time, with its running checks and its polling task.

Events that are due at the same instant happen in the order in which they were set up. The poller's
clock is virtual time and an offset that can be advanced by itself. -/
namespace ProxyWatch.Health
variable [Url.Idna]

/-- When an event is due, and its place among the events set up so far. -/
structure Alarm where
  due : Nat
  serial : Nat
  deriving DecidableEq, Repr

def Alarm.isBefore (a b : Alarm) : Bool := a.due < b.due || (a.due == b.due && a.serial < b.serial)

/-- The task of a batch. A task that dies has no result and completes nothing. -/
structure BatchTask where
  id : Nat
  alarm : Alarm
  result : Option (Dictionary Bool)
  ended : Bool := false
  deriving Repr

/-- What a polling task is doing: it sleeps until an alarm, or it waits for a batch. -/
inductive PollingPhase where
  | idle (alarm : Alarm)
  | refreshing (batch : Nat)
  deriving DecidableEq, Repr

structure PollingTask where
  urls : List String
  nextTick : Nat
  /-- The urls were set and have not been taken up. -/
  changed : Bool := false
  phase : PollingPhase
  deriving Repr

/-- All lists are kept latest first. -/
structure Timeline where
  now : Nat := 0
  clock : Clock := {}
  serial : Nat := 0
  hosts : Hosts
  poller : Poller
  tasks : List BatchTask := []
  polling : Option PollingTask := none
  probed : List Url := []
  deriving Repr

namespace Timeline

/-- What the poller's clock reads. -/
def reading (line : Timeline) : Nat := line.now + line.clock.elapsed

def alarmAt (line : Timeline) (due : Nat) : Alarm × Timeline :=
  (⟨due, line.serial⟩, { line with serial := line.serial + 1 })

/-- Asks the poller for a check and begins the task of a new batch. -/
def request (line : Timeline) (urls : List String) : Nat × Timeline :=
  let (id, poller) := line.poller.request urls line.reading
  if poller.nextId = line.poller.nextId then (id, line)
  else
    let check := checkAll poller.timing.probeTimeout (line.hosts.probes (Poller.keyOf urls))
    let (alarm, line) := line.alarmAt (line.now + check.duration)
    (id, { line with
      poller
      tasks := ⟨id, alarm, check.result, false⟩ :: line.tasks
      probed := check.probed.reverse ++ line.probed })

def task? (line : Timeline) (id : Nat) : Option BatchTask := line.tasks.find? (·.id == id)

/-- When a batch ends or ended. -/
def endOf (line : Timeline) (id : Nat) : Nat := ((line.task? id).map (·.alarm.due)).getD line.now

/-- What those who wait for a batch are given: a task that died gives them nothing. -/
def resultOf (line : Timeline) (id : Nat) : Dictionary Bool := ((line.task? id).bind (·.result)).getD []

/-- The polling task goes to sleep until its next tick, or goes on at once if its urls have been set. -/
def rest (line : Timeline) (polling : PollingTask) : Timeline :=
  let (alarm, line) := line.alarmAt (if polling.changed then line.now else max polling.nextTick line.now)
  { line with polling := some { polling with phase := .idle alarm } }

/-- A tick that is this late shifts the ticks after it. -/
def lateness : Nat := 5

def tickAfter (scheduled now interval : Nat) : Nat :=
  if scheduled + lateness < now then now + interval else scheduled + interval

/-- The polling task wakes up and asks for a check of its urls. Urls that have been set start the
interval anew. -/
def wake (line : Timeline) (polling : PollingTask) : Timeline :=
  let interval := line.poller.timing.interval
  let nextTick :=
    if polling.changed then line.now + interval else tickAfter polling.nextTick line.now interval
  let (batch, line) := line.request polling.urls
  let polling := { polling with nextTick, changed := false, phase := .refreshing batch }
  match line.task? batch with
  | some task => if task.ended then line.rest polling else { line with polling := some polling }
  | none => { line with polling := some polling }

/-- A batch task ends, and whoever waits for it goes on. -/
def finish (line : Timeline) (task : BatchTask) : Timeline :=
  let close (other : BatchTask) : BatchTask :=
    if other.id = task.id then { other with ended := true } else other
  let poller := match task.result with
    | some result => line.poller.complete task.id result line.reading
    | none => line.poller
  let line : Timeline := { line with tasks := line.tasks.map close, poller }
  match line.polling with
  | some polling =>
    if polling.phase = PollingPhase.refreshing task.id then line.rest polling else line
  | none => line

/-- The event that is due first. -/
inductive Event where
  | batchEnd (task : BatchTask)
  | tick (polling : PollingTask)
  deriving Repr

def earlier (a b : Alarm × Event) : Alarm × Event := if b.1.isBefore a.1 then b else a

def events (line : Timeline) : List (Alarm × Event) :=
  let ends := (line.tasks.filter (!·.ended)).map fun task => (task.alarm, Event.batchEnd task)
  match line.polling with
  | some polling =>
    match polling.phase with
    | .idle alarm => (alarm, .tick polling) :: ends
    | .refreshing _ => ends
  | none => ends

def next? (line : Timeline) : Option (Alarm × Event) :=
  match line.events with
  | [] => none
  | first :: rest => some (rest.foldl earlier first)

/-- The next event that happens no later than an instant, if there is one. -/
def step? (limit : Nat) (line : Timeline) : Option Timeline :=
  match line.next? with
  | none => none
  | some (alarm, event) =>
    if limit < alarm.due then none
    else
      let line := { line with now := max line.now alarm.due }
      some (match event with
        | .batchEnd task => line.finish task
        | .tick polling => line.wake polling)

def iterate (limit : Nat) : Nat → Timeline → Timeline
  | 0, line => line
  | fuel + 1, line =>
    match line.step? limit with
    | none => line
    | some next => iterate limit fuel next

/-- More events than a stretch of time can hold: the running tasks end, and every tick of the polling
task makes at most one more of them. -/
def budget (limit : Nat) (line : Timeline) : Nat :=
  line.tasks.length + 4 * ((limit - line.now) / max 1 line.poller.timing.interval + 4)

/-- Everything that happens up to and at an instant. -/
def runTo (limit : Nat) (line : Timeline) : Timeline :=
  { iterate limit (line.budget limit) line with now := max line.now limit }

/-- Waits until a batch has ended. -/
def await (id : Nat) (line : Timeline) : Timeline := line.runTo (line.endOf id)

/-- A new polling task takes the place of an earlier one. Without an interval it dies before its first tick. -/
def startPolling (urls : List String) (line : Timeline) : Timeline :=
  if line.poller.timing.interval = 0 then { line with polling := none }
  else
    let (alarm, line) := line.alarmAt line.now
    { line with polling := some { urls, nextTick := line.now, phase := .idle alarm } }

def setUrls (urls : List String) (line : Timeline) : Timeline :=
  match line.polling with
  | none => line
  | some polling =>
    let polling := { polling with urls, changed := true }
    match polling.phase with
    | .idle _ => line.rest polling
    | .refreshing _ => { line with polling := some polling }

/-- Stopping the task leaves the batch that it waits for running. -/
def stopPolling (line : Timeline) : Timeline := { line with polling := none }

end Timeline
end ProxyWatch.Health
