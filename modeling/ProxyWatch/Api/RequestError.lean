import ProxyWatch.Json.Record
import ProxyWatch.Text.Blank

/-! Why a request to the control interface failed. -/
namespace ProxyWatch.Api
open Json (Source)

/-- The standard phrase of a status. -/
def reasonPhrase? : Nat → Option String
  | 100 => "Continue" | 101 => "Switching Protocols" | 102 => "Processing" | 103 => "Early Hints"
  | 200 => "OK" | 201 => "Created" | 202 => "Accepted" | 203 => "Non Authoritative Information"
  | 204 => "No Content" | 205 => "Reset Content" | 206 => "Partial Content" | 207 => "Multi-Status"
  | 208 => "Already Reported" | 226 => "IM Used"
  | 300 => "Multiple Choices" | 301 => "Moved Permanently" | 302 => "Found" | 303 => "See Other"
  | 304 => "Not Modified" | 305 => "Use Proxy" | 307 => "Temporary Redirect"
  | 308 => "Permanent Redirect"
  | 400 => "Bad Request" | 401 => "Unauthorized" | 402 => "Payment Required" | 403 => "Forbidden"
  | 404 => "Not Found" | 405 => "Method Not Allowed" | 406 => "Not Acceptable"
  | 407 => "Proxy Authentication Required" | 408 => "Request Timeout" | 409 => "Conflict"
  | 410 => "Gone" | 411 => "Length Required" | 412 => "Precondition Failed"
  | 413 => "Payload Too Large" | 414 => "URI Too Long" | 415 => "Unsupported Media Type"
  | 416 => "Range Not Satisfiable" | 417 => "Expectation Failed" | 418 => "I'm a teapot"
  | 421 => "Misdirected Request" | 422 => "Unprocessable Entity" | 423 => "Locked"
  | 424 => "Failed Dependency" | 425 => "Too Early" | 426 => "Upgrade Required"
  | 428 => "Precondition Required" | 429 => "Too Many Requests"
  | 431 => "Request Header Fields Too Large" | 451 => "Unavailable For Legal Reasons"
  | 500 => "Internal Server Error" | 501 => "Not Implemented" | 502 => "Bad Gateway"
  | 503 => "Service Unavailable" | 504 => "Gateway Timeout" | 505 => "HTTP Version Not Supported"
  | 506 => "Variant Also Negotiates" | 507 => "Insufficient Storage" | 508 => "Loop Detected"
  | 510 => "Not Extended" | 511 => "Network Authentication Required"
  | _ => none

inductive RequestError where
  | api (status : Nat) (message : String)
  | http (detail : String)
  | connection (detail : String)
  | timeout
  | parse (detail : String)
  | invalidUrl (detail : String)
  deriving DecidableEq, Repr

namespace RequestError

def message : RequestError → String
  | api _ message => message
  | http detail => "HTTP request failed: " ++ detail
  | connection detail => "Connection failed: " ++ detail
  | timeout => "Request timed out"
  | parse detail => "Failed to parse response: " ++ detail
  | invalidUrl detail => "Invalid endpoint URL: " ++ detail

/-- The error text that a body holds, as an object with an `error` or as a list of it alone. -/
def errorText? (body : String) : Option String := do
  let [error] ← (← Source.parse? body).slots? ["error"] | none
  (← error).text?

/-- An answer that is no success: the error that its body holds, or the body itself, or the phrase of
its status. -/
def ofResponse (status : Nat) (body : String) : RequestError :=
  api status <|
    match errorText? body with
    | some text => text
    | none =>
      if Text.isBlankText body then (reasonPhrase? status).getD "request failed" else Text.trim body

end RequestError
end ProxyWatch.Api
