import ProxyWatch.Health.Poller
import ProxyWatch.Session

/-! What is watched, and how, as JSON. -/
namespace ProxyWatch

def Rate.toJson (rate : Rate) : Json :=
  .object [("upload", .ofNat rate.upload), ("download", .ofNat rate.download)]

def RateSheet.toJson (sheet : RateSheet) : Json :=
  .object [("connections", .object (sheet.connections.mapValues Rate.toJson)),
    ("total", .ofOption Rate.toJson sheet.total), ("sum", sheet.sum.toJson)]

def LogContext.toJson (context : LogContext) : Json :=
  .object [("src_socket_addr", .ofOption .string context.source),
    ("dest_socket_addr", .ofOption .string context.destination),
    ("dest_domain", .ofOption .string context.domain), ("net_list", .array (context.nets.map .string))]

/-- An entry with the message and the label that are shown for it. -/
def LogEntry.snapshot (entry : LogEntry) : Json.Members :=
  [("timestamp", .string entry.timestamp), ("level", .string entry.levelText),
    ("message", .ofOption .string entry.message), ("target", .ofOption .string entry.target),
    ("fields", .object entry.fields), ("display", .ofOption .string entry.displayMessage),
    ("label", .string entry.level.label)]

namespace Stream

def CloseReason.toJson : CloseReason → Json
  | explicit => .object [("kind", .string "Explicit")]
  | remote => .object [("kind", .string "Remote")]
  | transport message => .object [("kind", .string "Transport"), ("message", .string message)]
  | exhausted attempts => .object [("kind", .string "Exhausted"), ("attempts", .ofNat attempts)]

def State.toJson : State → Json
  | connecting => .string "Connecting"
  | opened => .string "Open"
  | reconnecting attempt => .object [("Reconnecting", .ofNat attempt)]
  | closed reason => .object [("Closed", reason.toJson)]

def ConnectionsView.toJson (view : ConnectionsView) : Json :=
  .object [("document", .ofOption id view.document), ("has_document", .bool view.document.isSome),
    ("rates", view.rates.toJson), ("status", .string view.status.message),
    ("updates", .ofNat view.updates), ("stale", .bool view.isStale),
    ("count", .ofNat view.connectionCount),
    ("ids", .ofOption (fun records => .array (records.keys.map .string)) view.connections)]

def LogReport.toJson (report : LogReport) : Json :=
  .object [("status", .string report.status.message), ("received", .ofNat report.received)]

def LogStream.snapshot (stream : LogStream) : Json.Members :=
  [("state", stream.run.link.state.toJson), ("status", .string stream.status.message),
    ("feed", stream.feed.report.toJson), ("paused", .bool stream.feed.buffer.paused),
    ("messages",
      .array (stream.feed.buffer.entries.map fun entry => .ofOption .string entry.displayMessage))]

end Stream

def Session.snapshot (session : Session) : Json.Members :=
  [("view", session.connections.feed.view.toJson),
    ("state", session.connections.run.link.state.toJson),
    ("status", .string session.connections.status.message), ("logs", .object session.logs.snapshot)]

/-- What a poller knows, and how each endpoint is shown at some clock time. -/
def Health.Poller.snapshot (poller : Health.Poller) (now : Nat) : Json.Members :=
  [("validating", .bool poller.validating), ("statuses", .object (poller.statuses.mapValues .bool)),
    ("transitions", .object (poller.transitions.mapValues fun transition =>
      .object [("previous", .bool transition.previous), ("at", .ofNat transition.time)])),
    ("states", .object ((poller.board.classifyAll now).mapValues fun shown => .string shown.label))]

def Settings.toJson (settings : Settings) : Json.Members :=
  [("endpoint", .ofOption .string settings.endpoint),
    ("reconnect_interval_ms", .ofNat settings.reconnectInterval),
    ("reconnect_attempts", .ofNat settings.reconnectAttempts),
    ("health_interval_ms", .ofNat settings.healthInterval),
    ("probe_timeout_ms", .ofNat settings.probeTimeout),
    ("dedup_window_ms", .ofNat settings.dedupWindow),
    ("transition_window_ms", .ofNat settings.transitionWindow),
    ("request_timeout_ms", .ofNat settings.requestTimeout),
    ("log_capacity", .ofNat settings.logCapacity), ("store_dir", .string settings.storeDirectory)]

def Api.Arrival.toJson (arrival : Api.Arrival) : Json :=
  .object [("method", .string arrival.method), ("target", .string arrival.target),
    ("content_type", .ofOption .string arrival.contentType), ("body", .string arrival.body)]

end ProxyWatch
