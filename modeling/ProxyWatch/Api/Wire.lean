import ProxyWatch.Api.Server
import ProxyWatch.Text.Base64

/-! Requests and replies as the bytes of a connection that carries one of each. -/
namespace ProxyWatch.Api

/-- The host that a request names, with its port unless it is the default one. -/
def authorityOf (url : Url) : String := url.hostText ++ (url.port.map fun port => s!":{port}").getD ""

/-- Credentials of a url are sent in a header. -/
def credentialLines (url : Url) : List String :=
  if url.username.isEmpty && url.password.isNone then []
  else
    let plain (text : String) : List UInt8 := Url.percentDecode text.toList
    let bytes := plain url.username ++ 0x3A :: plain (url.password.getD "")
    ["authorization: Basic " ++ String.ofList (Base64.encode bytes)]

/-- A head in lines, with the blank line that ends it. -/
def headText (lines : List String) : String := String.join (lines.map (· ++ "\r\n")) ++ "\r\n"

def Request.head (request : Request) : List String :=
  let typed := match request.body.bind Body.contentType? with
    | some kind => ["content-type: " ++ kind]
    | none => []
  let sized := match request.body with
    | some body => [s!"content-length: {body.toText.utf8ByteSize}"]
    | none => []
  [s!"{request.method.name} {request.url.target} HTTP/1.1", "host: " ++ authorityOf request.url,
    "accept: */*", "connection: close"] ++ credentialLines request.url ++ typed ++ sized

def Request.toBytes (request : Request) : List UInt8 :=
  (headText request.head ++ (request.body.map Body.toText).getD "").toUTF8.toList

/-- Parts bytes at the first blank line. -/
def splitHead : List UInt8 → Option (List UInt8 × List UInt8)
  | 0x0D :: 0x0A :: 0x0D :: 0x0A :: rest => some ([], rest)
  | byte :: rest => (splitHead rest).map fun (head, body) => (byte :: head, body)
  | [] => none

/-- The head of an answer: its status, and its headers by names in lower case. -/
structure Head where
  status : Nat
  headers : List (String × String)
  deriving DecidableEq, Repr

def lowercaseAscii (text : String) : String := String.ofList (text.toList.map Char.toLower)

def headerOf (line : String) : String × String :=
  let (name, value) := line.toList.span (· != ':')
  (lowercaseAscii (String.ofList name), Text.trim (String.ofList (value.drop 1)))

namespace Head

def parse? (bytes : List UInt8) : Option Head :=
  match (String.ofList (Utf8.decodeLossy bytes)).splitOn "\r\n" with
  | first :: lines =>
    match first.splitOn " " with
    | version :: status :: _ =>
      if version.startsWith "HTTP/1." then
        status.toNat?.map fun status => { status, headers := lines.map headerOf }
      else none
    | _ => none
  | [] => none

def header? (head : Head) (name : String) : Option String := head.headers.lookup name

end Head

def hexValue? (digits : List UInt8) : Option Nat :=
  if digits.isEmpty then none
  else digits.foldlM (fun n byte => do pure (n * 16 + (← Json.Source.hexDigit? (Char.ofNat byte.toNat)))) 0

/-- The body that chunks make up, once the last of them is there. -/
def joinChunks : Nat → List UInt8 → Option (List UInt8)
  | 0, _ => none
  | fuel + 1, bytes => do
    let line := bytes.takeWhile (· != 0x0D)
    let rest ← match bytes.drop line.length with
      | 0x0D :: 0x0A :: rest => some rest
      | _ => none
    let size ← hexValue? (line.takeWhile (· != 0x3B))
    if size = 0 then pure []
    else if rest.length < size + 2 then none
    else pure (rest.take size ++ (← joinChunks fuel (rest.drop (size + 2))))

/-- The body of an answer, once it is there. Without a length it goes on to the end. -/
def body? (method : String) (head : Head) (ended : Bool) (bytes : List UInt8) : Option (List UInt8) :=
  if Server.bodiless method head.status then some []
  else if (head.header? "transfer-encoding").map lowercaseAscii = some "chunked" then
    joinChunks (bytes.length + 1) bytes
  else
    match (head.header? "content-length").bind String.toNat? with
    | some size => if size ≤ bytes.length then some (bytes.take size) else none
    | none => if ended then some bytes else none

/-- The reply that bytes make up, once it is settled. -/
def reply? (method : String) (ended : Bool) (bytes : List UInt8) : Option Reply :=
  match splitHead bytes with
  | none => if ended then some .dropped else none
  | some (head, rest) =>
    match Head.parse? head with
    | none => some .dropped
    | some head =>
      match body? method head ended rest with
      | some body => some (.answered head.status body)
      | none => if ended then some (.cutShort head.status) else none

end ProxyWatch.Api
