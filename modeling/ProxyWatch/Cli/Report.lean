import ProxyWatch.Cli.Help
import ProxyWatch.Document.Pointer
import ProxyWatch.Endpoint.Basic
import ProxyWatch.Health.Poller
import ProxyWatch.Log.Entry
import ProxyWatch.Stream.ConnectionFeed
import ProxyWatch.Text.Quantity

/-! The lines that are printed. -/
namespace ProxyWatch.Cli

def activeMark (endpoint : Endpoint) : String := if endpoint.isActive then "*" else " "

def listLine (endpoint : Endpoint) : String :=
  s!"{activeMark endpoint} {padRight 16 endpoint.id} {padRight 20 endpoint.name} {endpoint.url}"

def healthText : Option Bool → String
  | some true => "online"
  | some false => "offline"
  | none => "invalid url"

def healthLine (endpoint : Endpoint) (status : Option Bool) : String :=
  s!"{activeMark endpoint} {padRight 20 endpoint.name} {padRight 32 endpoint.url} {healthText status}"

def changeLine (change : Health.Change) : String :=
  s!"{change.url} is now {healthText (some change.isOnline)}"

/-- Where a connection goes: a domain stands before an address, even if it is no text. -/
def destination (record : Json) : String :=
  let place (name : String) : Option Json := record.at? ["ctx", name]
  (((place "dest_domain").or (place "dest_socket_addr")).bind Json.text?).getD "-"

/-- The bytes that a connection has moved one way. -/
def moved (record : Json) (way : String) : Nat := ((record.member? way).bind Json.natural?).getD 0

def connectionLine (id : String) (record : Json) (rate : Rate) : String :=
  let flow (name : String) (rate total : Nat) : String :=
    s!"{name} {Quantity.rate rate} ({Quantity.bytes total})"
  let up := flow "up" rate.upload (moved record "upload")
  let down := flow "down" rate.download (moved record "download")
  s!"  {id}  {destination record}  {up}  {down}"

/-- A view in lines: a summary, with the rates of the document's totals if it has any, and the
connections. -/
def viewLines (view : Stream.ConnectionsView) : List String :=
  let total := view.rates.total.getD view.rates.sum
  let up := Quantity.rate total.upload
  let down := Quantity.rate total.download
  let status := view.status.message
  s!"[{status}] {view.connectionCount} connections  up {up}  down {down}" ::
    (view.connections.getD []).map fun (id, record) =>
      connectionLine id record ((view.rates.get? id).getD .zero)

def entryLine (entry : LogEntry) : String :=
  let target := match entry.context.bind fun context => context.domain.or context.destination with
    | some target => s!" -> {target}"
    | none => ""
  let shown := entry.displayMessage.getD ""
  s!"{entry.timestamp} {padLeft 5 entry.level.label} {shown}{target}"

/-- The entries that came since so many had been received, as far as they are still held. -/
def freshEntries (printed received : Nat) (entries : List LogEntry) : List LogEntry :=
  entries.drop (entries.length - (received - printed))

end ProxyWatch.Cli
