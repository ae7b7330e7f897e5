import ProxyWatch.Api.Wire

/-! Opening a WebSocket connection over a web request. -/
namespace ProxyWatch.Stream.Handshake

/-- The characters above the blank that a request target may not have. -/
def outsideTarget : List Char := ['\x7f', '#', '<', '>', '\\', '^', '\x60']

def isTargetChar (c : Char) : Bool := '!' ≤ c && !outsideTarget.contains c

/-- The target that an address asks for: what follows its authority, up to a fragment. -/
def target? (address : String) : Option String :=
  match address.toList.dropWhile (· != ':') with
  | ':' :: '/' :: '/' :: rest =>
    let after := rest.dropWhile fun c => c != '/' && c != '?' && c != '#'
    let target := after.takeWhile (· != '#')
    if !target.all isTargetChar then none
    else
      match target with
      | [] => some "/"
      | '?' :: _ => some (String.ofList ('/' :: target))
      | _ => some (String.ofList target)
  | _ => none

/-- A key, and what a server makes of it. -/
def key : String := "dGhlIHNhbXBsZSBub25jZQ=="

def acceptance : String := "s3pPLMBiTxaQ9kYGzzhZRbK+xOo="

def request (address : Url) : List UInt8 :=
  (Api.headText [s!"GET {address.target} HTTP/1.1", "host: " ++ Api.authorityOf address,
    "connection: Upgrade", "upgrade: websocket", "sec-websocket-version: 13",
    "sec-websocket-key: " ++ key]).toUTF8.toList

/-- Whether a server goes over to WebSocket frames. -/
def isAccepted (head : Api.Head) : Bool :=
  let isSet (name value : String) : Bool :=
    (head.header? name).map Api.lowercaseAscii == some value
  head.status == 101 && isSet "upgrade" "websocket" && isSet "connection" "upgrade" &&
    head.header? "sec-websocket-accept" == some acceptance

end ProxyWatch.Stream.Handshake
