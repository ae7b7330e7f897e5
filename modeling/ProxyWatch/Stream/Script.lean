import ProxyWatch.Stream.Driver

/-! Streams over scripted connections in virtual time.

Each connect takes the next script and is refused when none is left. Time passes only while the driver
waits, and everything that is due at an instant happens before time goes on. -/
namespace ProxyWatch.Stream

/-- What an open connection does next. -/
inductive Event where
  | message (payload : String)
  | wait (duration : Nat)
  | fail (error : TransportError)
  deriving DecidableEq, Repr

inductive Outcome where
  | refuse (error : TransportError)
  | serve (events : List Event) (hold : Bool)
  deriving DecidableEq, Repr

/-- One connect: how long it takes and what comes of it. A held connection stays open after its
events; any other ends. -/
structure Script where
  delay : Nat := 0
  outcome : Outcome
  deriving DecidableEq, Repr

/-- What the world outside has in store for a driver. -/
inductive Outlook where
  | idle
  | connects (due : Nat) (outcome : Outcome)
  | serves (since : Nat) (events : List Event) (hold : Bool)
  | wakes (due : Nat)
  deriving DecidableEq, Repr

/-- A stream in virtual time, with what it has done so far, latest first. -/
structure Run where
  now : Nat := 0
  driver : Driver
  link : Link := {}
  scripts : List Script
  outlook : Outlook := .idle
  callbacks : List (Nat × Callback) := []
  dials : List Nat := []
  deriving Repr

namespace Run

def start (policy : Policy) (scripts : List Script) : Run :=
  { driver := .start policy, scripts }

/-- The next script; connects beyond the last are refused at once. -/
def nextScript : List Script → Script × List Script
  | [] => ({ outcome := .refuse (.connect "refused") }, [])
  | script :: rest => (script, rest)

/-- The next thing an open connection does, when, and what is left then. -/
def nextEvent (since : Nat) (hold : Bool) : List Event → Option (Nat × Signal × Outlook)
  | [] => if hold then none else some (since, .ended, .idle)
  | .wait duration :: rest => nextEvent (since + duration) hold rest
  | .message payload :: rest => some (since, .message payload, .serves since rest hold)
  | .fail error :: _ => some (since, .failed error, .idle)

/-- The next signal from outside, when it comes, and what is left then. -/
def upcoming (outlook : Outlook) : Option (Nat × Signal × Outlook) :=
  match outlook with
  | .idle => none
  | .connects due (.refuse error) => some (due, .refused error, .idle)
  | .connects due (.serve events hold) => some (due, .accepted, .serves due events hold)
  | .serves since events hold => nextEvent since hold events
  | .wakes due => some (due, .elapsed, .idle)

/-- A step that the driver takes by itself. -/
def advance (run : Run) : Run :=
  let (driver, link, callbacks) := run.driver.advance run.link
  let outlook := match driver.point with
    | .waiting delay => .wakes (run.now + delay)
    | _ => run.outlook
  { run with
    driver, link, outlook
    callbacks := callbacks.map (run.now, ·) ++ run.callbacks }

/-- The next step that happens no later than an instant, if there is one. Stop comes before all
else. -/
def step? (limit : Nat) (run : Run) : Option Run :=
  if !run.driver.isWaiting then some run.advance
  else if run.driver.point = .finished then none
  else if run.link.stopped then some { run with driver := run.driver.receive .stop, outlook := .idle }
  else if run.driver.point = .connecting false then
    let (script, scripts) := nextScript run.scripts
    some { run with
      driver := run.driver.receive .dial
      scripts
      outlook := .connects (run.now + script.delay) script.outcome
      dials := run.now :: run.dials }
  else
    match upcoming run.outlook with
    | none => none
    | some (due, signal, outlook) =>
      if due ≤ limit then
        some { run with now := max run.now due, driver := run.driver.receive signal, outlook }
      else none

def iterate (limit : Nat) : Nat → Run → Run
  | 0, run => run
  | fuel + 1, run =>
    match run.step? limit with
    | none => run
    | some next => iterate limit fuel next

/-- More steps than the scripts and the retries after them can take. -/
def budget (run : Run) : Nat :=
  let events := match run.outlook with
    | .serves _ events _ | .connects _ (.serve events _) => events.length
    | _ => 0
  let scripted := run.scripts.foldl (fun n script =>
    match script.outcome with
    | .refuse _ => n
    | .serve events _ => n + events.length) 0
  16 * (run.scripts.length + run.driver.reconnector.policy.maxAttempts + 4) + 4 * (events + scripted)

/-- Everything that happens up to and at an instant. -/
def runTo (limit : Nat) (run : Run) : Run :=
  { run.iterate limit run.budget with now := max run.now limit }

/-- Everything that happens before an instant. -/
def runBefore (limit : Nat) (run : Run) : Run :=
  let before := if run.now < limit then run.iterate (limit - 1) run.budget else run
  { before with now := max run.now limit }

def close (run : Run) : Run := { run with link := run.link.close }

/-- Dropping the controller closes the link and ends the driver where it waits. -/
def drop (run : Run) : Run :=
  let run := run.close
  { run with driver := { run.driver with point := .finished } }

end Run
end ProxyWatch.Stream
