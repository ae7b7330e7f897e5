import ProxyWatch.Url.Host

/-! Urls by their parts, and their texts. -/
namespace ProxyWatch

/-- A path of segments, or the rest of a url that no path can be put on. -/
inductive Url.Path where
  | segments (segments : List String)
  | rigid (text : String)
  deriving DecidableEq, Repr

/-- All texts are encoded as they are written. A url without authority has no host; one with an
authority may have an empty one. -/
structure Url where
  scheme : String
  username : String := ""
  password : Option String := none
  authority : Bool := false
  host : Option Url.Host := none
  port : Option Nat := none
  path : Url.Path := .segments []
  query : Option String := none
  fragment : Option String := none
  deriving DecidableEq, Repr

namespace Url

/-- The schemes with hosts and default ports. -/
def isSpecial (scheme : String) : Bool :=
  ["http", "https", "ws", "wss", "ftp", "file"].contains scheme

def defaultPort? : String → Option Nat
  | "http" | "ws" => some 80
  | "https" | "wss" => some 443
  | "ftp" => some 21
  | _ => none

/-- The port that a connection goes to. -/
def effectivePort? (url : Url) : Option Nat := url.port.or (defaultPort? url.scheme)

def isBase (url : Url) : Bool :=
  match url.path with
  | .segments _ => true
  | .rigid _ => false

def Path.toText : Path → String
  | segments parts => String.join (parts.map ("/" ++ ·))
  | rigid text => text

def hostText (url : Url) : String := (url.host.map fun host => String.ofList host.toText).getD ""

def credentialsText (url : Url) : String :=
  match url.password with
  | some password => s!"{url.username}:{password}@"
  | none => if url.username.isEmpty then "" else url.username ++ "@"

def authorityText (url : Url) : String :=
  if url.authority then
    let port := (url.port.map fun port => s!":{port}").getD ""
    s!"//{url.credentialsText}{url.hostText}{port}"
  else
    match url.path with
    | .segments ("" :: _ :: _) => "/."
    | _ => ""

/-- Path and query, as they are requested. -/
def target (url : Url) : String :=
  url.path.toText ++ (url.query.map ("?" ++ ·)).getD ""

def toText (url : Url) : String :=
  s!"{url.scheme}:{url.authorityText}{url.target}" ++ (url.fragment.map ("#" ++ ·)).getD ""

end Url
end ProxyWatch
