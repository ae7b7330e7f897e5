import ProxyWatch.Api.Client
import ProxyWatch.Endpoint.Basic
import ProxyWatch.Settings.Basic
import ProxyWatch.Stream.Live

/-! Everything that is watched of one endpoint. -/
namespace ProxyWatch
variable [Url.Idna]

inductive SessionError where
  | request (error : Api.RequestError)
  | stream (error : Stream.TransportError)
  deriving DecidableEq, Repr

def SessionError.message : SessionError → String
  | request error => error.message
  | stream error => error.message

structure Session where
  endpoint : Endpoint
  client : Api.Client
  connections : Stream.ConnectionStream
  logs : Stream.LogStream
  deriving Repr

namespace Session

/-- Opens both streams over scripted connections. Nothing is opened if the client or either address cannot be
made; the log stream is the last to be opened, and its buffer may have no room. -/
def openWith (endpoint : Endpoint) (settings : Settings) (connections logs : List Stream.Script) :
    Except (Fault SessionError) Session := do
  let client ← (Api.Client.forEndpoint endpoint.url).mapError (.error ∘ .request)
  let policy := settings.reconnectPolicy
  let connections ←
    (Stream.ConnectionStream.openAt endpoint.url false policy connections).mapError (.error ∘ .stream)
  let logs ←
    (Stream.LogStream.openAt endpoint.url settings.logCapacity policy logs).mapError (·.map .stream)
  pure { endpoint, client, connections, logs }

/-- Moves both streams on. -/
def moveOn (change : Stream.Run → Stream.Run) (session : Session) : Session :=
  { session with
    connections := session.connections.moveOn change
    logs := session.logs.moveOn change }

def close (session : Session) : Session := session.moveOn Stream.Run.close

end Session
end ProxyWatch
