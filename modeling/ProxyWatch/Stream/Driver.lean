import ProxyWatch.Stream.State
import ProxyWatch.Stream.Reconnector

/-! The task that keeps one connection alive, in steps of one effect each.

The driver shares a `Link` with its controller. Between any two steps of the driver the controller may
close the link, in three steps of its own: it detaches the handler, sets the state and signals stop.
Where several of the driver's waits are over at once, any of them may be taken. -/
namespace ProxyWatch.Stream

/-- What a driver tells the handler of its stream. -/
inductive Callback where
  | opened
  | message (payload : String)
  | closed (reason : CloseReason)
  | reconnecting (attempt : Nat)
  deriving DecidableEq, Repr

/-- What the driver and its controller share. -/
structure Link where
  state : State := .connecting
  attached : Bool := true
  stopped : Bool := false
  deriving DecidableEq, Repr

namespace Link

/-- A closed state is final. -/
def setState (next : State) (link : Link) : Link :=
  if link.state.isClosed then link else { link with state := next }

def detach (link : Link) : Link := { link with attached := false }

def signalStop (link : Link) : Link := { link with stopped := true }

/-- The controller's close. -/
def close (link : Link) : Link := (link.detach.setState (.closed .explicit)).signalStop

end Link

/-- Where a driver stands. -/
inductive Point where
  | starting
  | connecting (dialled : Bool)
  | accepted
  | greeting
  | reading
  | delivering (payload : String)
  | dropping (reason : CloseReason)
  | lost
  | retrying (attempt delay : Nat)
  | waiting (delay : Nat)
  | abandoning (attempts : Nat)
  | finished
  deriving DecidableEq, Repr

/-- What a waiting driver can go on with. -/
inductive Signal where
  | stop
  | dial
  | accepted
  | refused (error : TransportError)
  | message (payload : String)
  | failed (error : TransportError)
  | ended
  | elapsed
  deriving DecidableEq, Repr

structure Driver where
  point : Point := .starting
  reconnector : Reconnector
  deriving DecidableEq, Repr

namespace Driver

def start (policy : Policy) : Driver := { reconnector := { policy } }

/-- A driver that waits goes on only when a signal comes. -/
def isWaiting (driver : Driver) : Bool :=
  match driver.point with
  | .connecting _ | .reading | .waiting _ | .finished => true
  | _ => false

/-- Calls the handler, if it is still attached, and goes on at a point; without a handler the driver
is finished. -/
def tell (driver : Driver) (link : Link) (callback : Callback) (next : Point) :
    Driver × Link × List Callback :=
  if link.attached then ({ driver with point := next }, link, [callback])
  else ({ driver with point := .finished }, link, [])

/-- The next step of a driver that does not wait. -/
def advance (driver : Driver) (link : Link) : Driver × Link × List Callback :=
  match driver.point with
  | .starting => ({ driver with point := .connecting false }, link.setState .connecting, [])
  | .accepted =>
    ({ point := .greeting, reconnector := driver.reconnector.opened }, link.setState .opened, [])
  | .greeting => driver.tell link .opened .reading
  | .delivering payload => driver.tell link (.message payload) .reading
  | .dropping reason => driver.tell link (.closed reason) .lost
  | .lost =>
    match driver.reconnector.failed with
    | (.retry attempt delay, reconnector) =>
      ({ point := .retrying attempt delay, reconnector }, link.setState (.reconnecting attempt), [])
    | (.giveUp attempts, reconnector) =>
      ({ point := .abandoning attempts, reconnector },
        link.setState (.closed (.exhausted attempts)), [])
  | .retrying attempt delay => driver.tell link (.reconnecting attempt) (.waiting delay)
  | .abandoning attempts => driver.tell link (.closed (.exhausted attempts)) .finished
  | .connecting _ | .reading | .waiting _ | .finished => (driver, link, [])

/-- The point that a waiting driver goes on to. Signals that it does not wait for change nothing. -/
def receive (driver : Driver) (signal : Signal) : Driver :=
  { driver with
    point := match driver.point, signal with
      | .connecting false, .dial => .connecting true
      | .connecting true, .accepted => .accepted
      | .connecting true, .refused _ => .lost
      | .reading, .message payload => .delivering payload
      | .reading, .failed error => .dropping (.transport error.message)
      | .reading, .ended => .dropping .remote
      | .waiting _, .elapsed => .starting
      | .connecting _, .stop | .reading, .stop | .waiting _, .stop => .finished
      | point, _ => point }

end Driver
end ProxyWatch.Stream
