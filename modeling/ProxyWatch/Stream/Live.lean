import ProxyWatch.Stream.Address
import ProxyWatch.Stream.ConnectionFeed
import ProxyWatch.Stream.LogFeed
import ProxyWatch.Stream.Script

/-! Streams as their consumers see them: a run together with the feed that its callbacks reach. -/
namespace ProxyWatch

/-- How something ends without a result: with an error for its caller, or by a panic, of which the caller is not
told. -/
inductive Fault (ε : Type) where
  | error (error : ε)
  | panic
  deriving DecidableEq, Repr

def Fault.map {ε ε' : Type} (change : ε → ε') : Fault ε → Fault ε'
  | error failure => .error (change failure)
  | panic => .panic

end ProxyWatch

namespace ProxyWatch.Stream
variable [Url.Idna]

structure Live (Feed : Type) where
  address : Url
  run : Run
  feed : Feed
  deriving Repr

namespace Live
variable {Feed : Type}

/-- What has been called back since an earlier point of a run, first to last. -/
def callbacksSince (before after : Run) : List Callback :=
  ((after.callbacks.take (after.callbacks.length - before.callbacks.length)).map (·.2)).reverse

/-- Moves the run on and takes its callbacks to the feed. -/
def moveOn (react : Feed → Callback → Bool × Feed) (change : Run → Run) (live : Live Feed) :
    Live Feed :=
  let run := change live.run
  { live with
    run
    feed := (callbacksSince live.run run).foldl (fun feed callback => (react feed callback).2) live.feed }

/-- The status shown: a stream closed by its consumer says so at once. -/
def statusOf (shown : Feed → Status) (live : Live Feed) : Status :=
  if live.run.link.state = .closed .explicit then .closed else shown live.feed

end Live

abbrev ConnectionStream := Live ConnectionFeed

namespace ConnectionStream

def openAt (endpoint : String) (withoutConnections : Bool) (policy : Policy) (scripts : List Script) :
    Except TransportError ConnectionStream :=
  (connectionAddress endpoint withoutConnections).map fun address =>
    { address, run := .start policy scripts, feed := {} }

def moveOn (change : Run → Run) (stream : ConnectionStream) : ConnectionStream :=
  Live.moveOn ConnectionFeed.react change stream

def status (stream : ConnectionStream) : Status := Live.statusOf (·.view.status) stream

end ConnectionStream

abbrev LogStream := Live LogFeed

namespace LogStream

/-- The address is made first, then the buffer, and only then the driver begins. -/
def openAt (endpoint : String) (capacity : Nat) (policy : Policy) (scripts : List Script) :
    Except (Fault TransportError) LogStream := do
  let address ← (logAddress endpoint).mapError .error
  let feed ← (LogFeed.withCapacity? capacity).elim (.error .panic) .ok
  pure { address, run := .start policy scripts, feed }

def moveOn (change : Run → Run) (stream : LogStream) : LogStream :=
  Live.moveOn LogFeed.react change stream

def onBuffer (change : EventBuffer → EventBuffer) (stream : LogStream) : LogStream :=
  { stream with feed := stream.feed.onBuffer change }

def status (stream : LogStream) : Status := Live.statusOf (·.report.status) stream

end LogStream
end ProxyWatch.Stream
