import ProxyWatch.Log.Buffer
import ProxyWatch.Stream.Driver

/-! The log stream's entries and what a consumer is told of them. -/
namespace ProxyWatch.Stream

/-- What is told of the log stream. The count of entries has no bound here; 2^64 of them are out of reach. -/
structure LogReport where
  status : Status := .connecting
  received : Nat := 0
  deriving DecidableEq, Repr

/-- The handler of the log stream, with the buffer that it shares with the consumer. -/
structure LogFeed where
  buffer : EventBuffer
  report : LogReport := {}
  deriving Repr

namespace LogFeed

/-- The feed of a stream that begins. -/
def empty (capacity : Nat) : LogFeed := { buffer := .empty capacity }

def withCapacity? (capacity : Nat) : Option LogFeed :=
  (EventBuffer.withCapacity? capacity).map fun buffer => { buffer }

/-- Puts an entry into the buffer; says whether the buffer took it. -/
def keep (feed : LogFeed) (entry : LogEntry) : Bool × LogFeed :=
  let (appended, buffer) := feed.buffer.append entry
  (appended, { feed with buffer })

/-- Publishes that one more entry came. -/
def announce (feed : LogFeed) : LogFeed :=
  { feed with report := { feed.report with received := feed.report.received + 1 } }

/-- Keeps the entry of a payload, if it is one, and then announces it. -/
def handle (feed : LogFeed) (payload : String) : Option Bool × LogFeed :=
  match LogEntry.parse? payload with
  | none => (none, feed)
  | some entry =>
    let (appended, feed) := feed.keep entry
    (some appended, feed.announce)

/-- Publishes a status unless it is shown already; says whether it was published. -/
def setStatus (feed : LogFeed) (status : Status) : Bool × LogFeed :=
  if feed.report.status = status then (false, feed)
  else (true, { feed with report := { feed.report with status } })

/-- Takes a callback; says whether the report was published. -/
def react (feed : LogFeed) : Callback → Bool × LogFeed
  | .opened => feed.setStatus .connected
  | .message payload =>
    let (appended, feed) := feed.handle payload
    (appended.isSome, feed)
  | .closed reason => feed.setStatus (.afterClose reason)
  | .reconnecting attempt => feed.setStatus (.reconnecting attempt)

/-- Changes the buffer as its consumer does. -/
def onBuffer (feed : LogFeed) (change : EventBuffer → EventBuffer) : LogFeed :=
  { feed with buffer := change feed.buffer }

end LogFeed
end ProxyWatch.Stream
