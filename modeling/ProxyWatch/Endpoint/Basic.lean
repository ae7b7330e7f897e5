import ProxyWatch.Json.Record

/-! Endpoints: the control interfaces that can be watched. -/
namespace ProxyWatch
open Json (Source)

structure Endpoint where
  id : String
  name : String
  url : String
  isActive : Bool := false
  deriving DecidableEq, Repr, Inhabited

namespace Endpoint

def localUrl : String := "http://127.0.0.1:8030"

/-- The endpoint of a fresh installation. -/
def default : Endpoint := { id := "local", name := "Local instance", url := localUrl, isActive := true }

def members : List String := ["id", "name", "url", "isActive"]

def ofSource? (tree : Source) : Option Endpoint := do
  let [id, name, url, isActive] ← tree.slots? members | none
  pure {
    id := ← (← id).text?
    name := ← (← name).text?
    url := ← (← url).text?
    isActive := ← (← isActive).bool? }

def listOfSource? : Source → Option (List Endpoint)
  | .array items => items.mapM ofSource?
  | _ => none

def toJson (endpoint : Endpoint) : Json :=
  .object [("id", .string endpoint.id), ("name", .string endpoint.name), ("url", .string endpoint.url),
    ("isActive", .bool endpoint.isActive)]

end Endpoint
end ProxyWatch
