import ProxyWatch.Cli.Report
import ProxyWatch.Cli.World
import ProxyWatch.Settings.Basic
import ProxyWatch.Stream.Address
import ProxyWatch.Stream.LogFeed

/-! Following a stream: what it publishes is printed until it is closed or interrupted.

While something is printed the driver goes on with what has arrived. What it publishes then is printed
together, once the driver waits. -/
namespace ProxyWatch.Cli
open ProxyWatch.Stream (Callback Driver Link Signal)
variable [Url.Idna]
variable {m : Type → Type} [Monad m] {Feed : Type}

/-- What a stream feeds, and what is printed when something has been published. -/
structure Consumer (Feed : Type) where
  react : Feed → Callback → Bool × Feed
  present : Feed → List String × Feed

structure Follower (Feed : Type) where
  driver : Driver
  link : Link := {}
  feed : Feed
  /-- The state of the link has not been looked at since something was printed. -/
  printing : Bool := false
  /-- Something has been published that has not been printed. -/
  unseen : Bool := false
  ended : Bool := false

namespace Follower

/-- Prints what has been published. -/
def present (world : World m) (consumer : Consumer Feed) (follower : Follower Feed) :
    m (Follower Feed) := do
  let (lines, feed) := consumer.present follower.feed
  lines.forM world.print
  pure { follower with feed, printing := true, unseen := false }

/-- Takes a callback to the feed. -/
def hear (world : World m) (consumer : Consumer Feed) (follower : Follower Feed) (callback : Callback) :
    m (Follower Feed) := do
  let (published, feed) := consumer.react follower.feed callback
  if !published then pure { follower with feed }
  else if follower.printing then pure { follower with feed, unseen := true }
  else present world consumer { follower with feed }

/-- Only after something has been printed the state of the link is looked at. -/
def catchUp (world : World m) (consumer : Consumer Feed) (follower : Follower Feed) : m (Follower Feed) := do
  if follower.printing then
    pure { follower with printing := false, ended := follower.link.state.isClosed }
  else present world consumer follower

def isBehind (follower : Follower Feed) : Bool := follower.printing || follower.unseen

/-- Whether the driver has to wait before it can go on. -/
def mustWait (world : World m) (follower : Follower Feed) : m Bool := do
  match follower.driver.point with
  | .reading => pure !(← world.hasArrived)
  | _ => pure follower.driver.isWaiting

/-- Goes on with a signal; an interrupt closes the link. -/
def heed (follower : Follower Feed) (signal : Signal) : Follower Feed :=
  if signal = .stop then { follower with link := follower.link.close, ended := true }
  else { follower with driver := follower.driver.receive signal }

def step (world : World m) (consumer : Consumer Feed) (address : Url) (follower : Follower Feed) :
    m (Option (Follower Feed)) := do
  if follower.ended then pure none
  else if follower.isBehind && (← follower.mustWait world) then
    pure (some (← follower.catchUp world consumer))
  else
    match follower.driver.point with
    | .connecting false => pure (some (follower.heed .dial))
    | .connecting true => pure (some (follower.heed (← world.dial address)))
    | .reading => pure (some (follower.heed (← world.receive)))
    | .waiting delay => pure (some (follower.heed (← world.sleep delay)))
    | .finished => pure none
    | _ =>
      let (driver, link, callbacks) := follower.driver.advance follower.link
      pure (some (← callbacks.foldlM (hear world consumer) { follower with driver, link }))

def isExhausted (follower : Follower Feed) : Bool :=
  match follower.link.state with
  | .closed (.exhausted _) => true
  | _ => false

end Follower

/-- Log entries, and how many of those received have been printed. -/
structure LogReader where
  feed : Stream.LogFeed
  printed : Nat := 0
  deriving Repr

/-- Prints the views of the connections. -/
def connectionConsumer : Consumer Stream.ConnectionFeed where
  react := Stream.ConnectionFeed.react
  present feed := (viewLines feed.view, feed)

/-- Prints the entries that match a filter. -/
def logConsumer (filter : String) : Consumer LogReader where
  react reader callback :=
    let (published, feed) := reader.feed.react callback
    (published, { reader with feed })
  present reader :=
    let received := reader.feed.report.received
    let fresh := freshEntries reader.printed received reader.feed.buffer.entries
    ((fresh.filter (·.isMatch filter)).map entryLine, { reader with printed := received })

namespace World

def follow (world : World m) (consumer : Consumer Feed) (address : Url) (policy : Stream.Policy)
    (feed : Feed) : m (Follower Feed) :=
  world.loop (Follower.step world consumer address) { driver := .start policy, feed }

/-- Follows the connections of an endpoint. -/
def connections (world : World m) (endpoint : Endpoint) (settings : Settings) (totalsOnly : Bool) :
    m (Except Failure Unit) := do
  match Stream.connectionAddress endpoint.url totalsOnly with
  | .error error => pure (.error (.stream error))
  | .ok address =>
    world.print s!"Watching connections of {endpoint.name} ({endpoint.url})"
    let follower ← world.follow connectionConsumer address settings.reconnectPolicy {}
    pure (if follower.isExhausted then .error (.gaveUp endpoint.url) else .ok ())

/-- Follows the log of an endpoint. -/
def logs (world : World m) (endpoint : Endpoint) (settings : Settings) (filter : String) :
    m (Except Failure Unit) := do
  match Stream.logAddress endpoint.url with
  | .error error => pure (.error (.stream error))
  | .ok address =>
    match Stream.LogFeed.withCapacity? settings.logCapacity with
    | none => pure (.error .overflow)
    | some feed =>
      let _ ← world.follow (logConsumer filter) address settings.reconnectPolicy { feed }
      pure (.ok ())

end World
end ProxyWatch.Cli
