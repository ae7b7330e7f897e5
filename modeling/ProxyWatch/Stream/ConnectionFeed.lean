import ProxyWatch.Document.Message
import ProxyWatch.Document.Reconciler
import ProxyWatch.Stream.Driver
import ProxyWatch.Traffic.Rates

/-! The view of the live connections, kept from the messages of the connection stream. -/
namespace ProxyWatch.Stream

/-- What a consumer is shown. The count of updates has no bound here; 2^64 of them are out of reach. -/
structure ConnectionsView where
  document : Option Json := none
  rates : RateSheet := {}
  status : Status := .connecting
  updates : Nat := 0
  deriving Repr

namespace ConnectionsView

def isStale (view : ConnectionsView) : Bool := view.status == .stale

def connections (view : ConnectionsView) : Option Json.Members :=
  (view.document.bind (·.member? "connections")).bind Json.members?

def connectionCount (view : ConnectionsView) : Nat := (view.connections.map List.length).getD 0

end ConnectionsView

inductive MessageError where
  | parse
  | patch (error : PatchError)
  deriving DecidableEq, Repr

/-- The handler of the connection stream. A resync is pending from a message that could not be taken
up until the next full document. -/
structure ConnectionFeed where
  reconciler : Reconciler := {}
  rates : RateTracker := {}
  view : ConnectionsView := {}
  resyncPending : Bool := false
  deriving Repr

namespace ConnectionFeed

/-- The document that a message leads to. -/
def documentAfter (feed : ConnectionFeed) (payload : String) : Except MessageError (Message × Json) :=
  match Message.parse? payload with
  | none => .error .parse
  | some (.full document) => .ok (.full document, document)
  | some (.patch patch) =>
    match feed.reconciler.next patch with
    | .ok document => .ok (.patch patch, document)
    | .error error => .error (.patch error)

def liveStatus (feed : ConnectionFeed) : Status := if feed.resyncPending then .stale else .connected

/-- Takes up a message and publishes the view; a message that cannot be taken up leaves the view as it
is and a resync pending. -/
def handle (feed : ConnectionFeed) (payload : String) : Except MessageError Unit × ConnectionFeed :=
  match feed.documentAfter payload with
  | .error error => (.error error, { feed with resyncPending := true })
  | .ok (message, document) =>
    let (sheet, rates) := feed.rates.update document
    let resyncPending := feed.resyncPending && !message.isFull
    let feed := { feed with reconciler := feed.reconciler.reset document, rates, resyncPending }
    (.ok (), { feed with
      view := {
        document := some document
        rates := sheet
        status := feed.liveStatus
        updates := feed.view.updates + 1 } })

/-- Publishes a status unless it is shown already; says whether it was published. -/
def setStatus (feed : ConnectionFeed) (status : Status) : Bool × ConnectionFeed :=
  if feed.view.status = status then (false, feed)
  else (true, { feed with view := { feed.view with status } })

/-- Takes a callback; says whether the view was published. -/
def react (feed : ConnectionFeed) : Callback → Bool × ConnectionFeed
  | .opened => feed.setStatus feed.liveStatus
  | .message payload =>
    match feed.handle payload with
    | (.ok (), feed) => (true, feed)
    | (.error _, feed) => feed.setStatus .stale
  | .closed reason => feed.setStatus (.afterClose reason)
  | .reconnecting attempt => feed.setStatus (.reconnecting attempt)

end ConnectionFeed
end ProxyWatch.Stream
