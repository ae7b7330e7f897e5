import ProxyWatch.Api.RequestError
import ProxyWatch.Json.Diagnosis
import ProxyWatch.Text.Utf16
import ProxyWatch.Text.Utf8
import ProxyWatch.Url.Edit

/-! One request over the web, and what may come back. -/
namespace ProxyWatch.Api

inductive Method where
  | get
  | post
  | put
  | delete
  | other (name : String)
  deriving DecidableEq, Repr

def Method.name : Method → String
  | get => "GET"
  | post => "POST"
  | put => "PUT"
  | delete => "DELETE"
  | other name => name

/-- A body that is sent along: JSON, or plain text. -/
inductive Body where
  | json (value : Json)
  | text (content : String)
  deriving Repr

namespace Body

def contentType? : Body → Option String
  | .json _ => some "application/json"
  | .text _ => none

def toText : Body → String
  | .json value => value.toText
  | .text content => content

end Body

structure Request where
  method : Method
  url : Url
  body : Option Body := none
  deriving Repr

/-- What comes of sending a request. -/
inductive Reply where
  | answered (status : Nat) (body : List UInt8)
  | cutShort (status : Nat)
  | dropped
  | refused
  | timedOut
  | notSendable
  deriving DecidableEq, Repr

/-- A body as text: a byte order mark says how it is written and is dropped, and invalid bytes become
replacement characters. -/
def bodyText (bytes : List UInt8) : String :=
  String.ofList <| match bytes with
    | 0xFF :: 0xFE :: rest => Utf16.decodeLossy .lowFirst rest
    | 0xFE :: 0xFF :: rest => Utf16.decodeLossy .highFirst rest
    | 0xEF :: 0xBB :: 0xBF :: rest => Utf8.decodeLossy rest
    | _ => Utf8.decodeLossy bytes

def isSuccess (status : Nat) : Bool := 200 ≤ status && status < 300

/-- How messages name the url of a request. -/
def forUrl (url : Url) : String := s!" for url ({url.withoutCredentials.toText})"

/-- What an answer from a url says: an empty body of a success says nothing. -/
def Reply.read (url : Url) : Reply → Except RequestError Json
  | answered status body =>
    let text := bodyText body
    if !isSuccess status then .error (.ofResponse status text)
    else if Text.isBlankText text then .ok .null
    else
      match Json.parse? text with
      | some value => .ok value
      | none => .error (.parse (Json.complaint text))
  | cutShort _ => .error (.parse "error decoding response body")
  | dropped => .error (.http ("error sending request" ++ forUrl url))
  | refused => .error (.connection ("error sending request" ++ forUrl url))
  | timedOut => .error .timeout
  | notSendable => .error (.http ("builder error" ++ forUrl url))

end ProxyWatch.Api
