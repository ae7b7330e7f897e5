import ProxyWatch.Api.Server
import ProxyWatch.Api.Model

/-! The calls on a control interface: their requests, and the results that answers give. -/
namespace ProxyWatch.Api
variable [Url.Idna]

/-- A client of one endpoint. -/
structure Client where
  base : Url
  deriving Repr

namespace Client

/-- The endpoint of a local install. -/
def defaultEndpoint : String := "http://127.0.0.1:8030"

/-- The endpoint must be a url that a path can be put on. -/
def forEndpoint (endpoint : String) : Except RequestError Client :=
  match Url.parse endpoint with
  | .error error => .error (.invalidUrl error.message)
  | .ok base => if base.isBase then .ok ⟨base⟩ else .error (.invalidUrl endpoint)

def stripSlashes (text : List Char) : List Char := (text.reverse.dropWhile (· == '/')).reverse

/-- The url of a path given as text, which goes on after the base's text. -/
def pathUrl (client : Client) (path : String) : Except RequestError Url :=
  let text := String.ofList (stripSlashes client.base.toText.toList) ++ "/api" ++ path
  (Url.parse text).mapError fun error => .invalidUrl error.message

/-- The url of segments below the base's path. -/
def segmentsUrl (client : Client) (segments : List String) : Except RequestError Url :=
  match client.base.extend? ("api" :: segments) with
  | some url => .ok url
  | none => .error (.invalidUrl client.base.toText)

end Client

/-- The calls that a client makes. -/
inductive Call where
  | request (method : Method) (path : String) (body : Option Json)
  | getConfig
  | postConfig (source : ImportSource)
  | getPlugins
  | getConnections
  | deleteConnections
  | getState
  | select (net selected : String)
  | closeConnection (id : String)
  | getDelay (net url : String) (timeout : Option Nat)
  | listUserData
  | getUserData (key : String)
  | putUserData (key data : String)
  | deleteUserData (key : String)
  deriving Repr

namespace Call

/-- The request of a call. -/
def toRequest (client : Client) (call : Call) : Except RequestError Request := do
  let at_ (method : Method) (segments : List String) (body : Option Body) :
      Except RequestError Request := do
    pure { method, url := ← client.segmentsUrl segments, body }
  match call with
  | request method path body =>
    pure { method, url := ← client.pathUrl path, body := body.map .json }
  | getConfig => at_ .get ["config"] none
  | postConfig source => at_ .post ["config"] (some (.json source.toJson))
  | getPlugins => at_ .get ["registry"] none
  | getConnections => at_ .get ["connections"] none
  | deleteConnections => at_ .delete ["connections"] none
  | getState => at_ .get ["state"] none
  | select net selected =>
    at_ .post ["select", net] (some (.json (.object [("selected", .string selected)])))
  | closeConnection id => at_ .delete ["conn", id] none
  | getDelay net url timeout => do
    let request ← at_ .get ["delay", net] none
    let target := request.url.appendPair "url" url
    let target := match timeout with
      | none => target
      | some timeout => target.appendPair "timeout" (toString timeout)
    pure { request with url := target }
  | listUserData => at_ .get ["userdata"] none
  | getUserData key => at_ .get ["userdata", key] none
  | putUserData key data => at_ .put ["userdata", key] (some (.text data))
  | deleteUserData key => at_ .delete ["userdata", key] none

end Call

/-- The result of a call, as JSON. -/
def Call.decode (call : Call) (value : Json) : Except RequestError Json :=
  let decoded (x : Option Json) : Except RequestError Json :=
    match x with
    | some value => .ok value
    | none => .error (.parse "unexpected shape")
  let source := Json.Source.ofJson value
  match call with
  | postConfig _ | select _ _ => .ok .null
  | getPlugins => decoded ((Plugins.ofSource? source).map Plugins.toJson)
  | closeConnection _ =>
    match value with
    | .bool found => .ok (.bool found)
    | other => .error (.parse s!"invalid type: {other.describe}, expected a boolean")
  | getDelay _ _ _ =>
    decoded ((Json.Source.optional? Delay.ofSource? (some source)).map (Json.ofOption Delay.toJson))
  | listUserData => decoded ((UserDataKeys.ofSource? source).map UserDataKeys.toJson)
  | putUserData _ _ => decoded ((copiedOfSource? source).map Json.ofNat)
  | deleteUserData _ => decoded ((removedOfSource? source).map .bool)
  | request _ _ _ | getConfig | getConnections | deleteConnections | getState | getUserData _ =>
    .ok value

/-- The result of a call from the reply of the url that it went to. -/
def Call.finish (call : Call) (url : Url) (reply : Reply) : Except RequestError Json := do
  call.decode (← reply.read url)

/-- A whole call against a server. A call whose request cannot be made does not reach it. -/
def Call.run (call : Call) (client : Client) (server : Server) : Except RequestError Json × Server :=
  match call.toRequest client with
  | .error error => (.error error, server)
  | .ok outgoing =>
    let (reply, server) := server.exchange outgoing
    (call.finish outgoing.url reply, server)

end ProxyWatch.Api
