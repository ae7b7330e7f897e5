import ProxyWatch.Api.Exchange

/-! A web server that answers from a list, and what reaches it. -/
namespace ProxyWatch.Api

/-- How a server goes about a request. -/
inductive Manner where
  | answer
  /-- The answer announces more than it has, and ends. -/
  | cutShort
  | drop
  | hang
  deriving DecidableEq, Repr

/-- An answer for the requests of one target or of any, as often as it may be given. -/
structure Response where
  status : Nat
  body : List UInt8 := []
  target : Option String := none
  uses : Option Nat := none
  manner : Manner := .answer
  deriving DecidableEq, Repr

namespace Response

def fits (target : String) (response : Response) : Bool :=
  response.target.all (· == target) && response.uses != some 0

def used (response : Response) : Response := { response with uses := response.uses.map (· - 1) }

end Response

/-- A request as a server sees it. -/
structure Arrival where
  method : String
  target : String
  contentType : Option String
  body : String
  deriving DecidableEq, Repr

def Request.arrival (request : Request) : Arrival where
  method := request.method.name
  target := request.url.target
  contentType := request.body.bind Body.contentType?
  body := (request.body.map Body.toText).getD ""

/-- A server at a host and port, with the requests so far, latest first. -/
structure Server where
  host : String
  port : Nat
  responses : List Response := []
  arrivals : List Arrival := []
  deriving Repr

namespace Server

/-- The first answer that fits, and the list after it was given. -/
def choose (target : String) : List Response → Response × List Response
  | [] => ({ status := 404 }, [])
  | response :: rest =>
    if response.fits target then (response, response.used :: rest)
    else
      let (chosen, rest) := choose target rest
      (chosen, response :: rest)

/-- Answers to HEAD, and some statuses, have no body whatever their headers say. -/
def bodiless (method : String) (status : Nat) : Bool :=
  method == "HEAD" || status == 204 || status == 304

def reply (method : String) (response : Response) : Reply :=
  match response.manner with
  | .drop => .dropped
  | .hang => .timedOut
  | .answer =>
    .answered response.status (if bodiless method response.status then [] else response.body)
  | .cutShort =>
    if bodiless method response.status then .answered response.status []
    else .cutShort response.status

/-- A request goes out if its scheme is of the web, and arrives if it is for this server. -/
def exchange (server : Server) (request : Request) : Reply × Server :=
  if request.url.scheme ≠ "http" ∧ request.url.scheme ≠ "https" then (.notSendable, server)
  else if request.url.scheme ≠ "http" ∨ request.url.hostText ≠ server.host ∨
      request.url.effectivePort? ≠ some server.port then (.refused, server)
  else
    let (response, responses) := choose request.url.target server.responses
    (reply request.method.name response,
      { server with responses, arrivals := request.arrival :: server.arrivals })

end Server
end ProxyWatch.Api
