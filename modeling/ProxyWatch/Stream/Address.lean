import ProxyWatch.Stream.State
import ProxyWatch.Url.Edit

/-! The addresses of the streams of an endpoint. -/
namespace ProxyWatch.Stream
variable [Url.Idna]

/-- The WebSocket scheme beside a scheme of the web. -/
def socketScheme? : String → Option String
  | "http" | "ws" => some "ws"
  | "https" | "wss" => some "wss"
  | _ => none

def address? (endpoint name : String) : Option Url := do
  let url ← Url.parse? endpoint
  let url ← url.setScheme? (← socketScheme? url.scheme)
  url.withoutQuery.extend? ["api", "v1", "ws", name]

def address (endpoint name : String) : Except TransportError Url :=
  match address? endpoint name with
  | some url => .ok url
  | none => .error (.invalidUrl endpoint)

/-- The connection stream, with patches, and without the connections if they are not wanted. -/
def connectionAddress (endpoint : String) (withoutConnections : Bool) : Except TransportError Url :=
  (address endpoint "connection").map fun url =>
    let url := url.appendPair "patch" "true"
    if withoutConnections then url.appendPair "without_connections" "true" else url

def logAddress (endpoint : String) : Except TransportError Url := address endpoint "log"

end ProxyWatch.Stream
