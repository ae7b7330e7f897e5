import ProxyWatch.Endpoint.Basic
import ProxyWatch.Endpoint.Store

/-! The list of known endpoints, with at most one active. -/
namespace ProxyWatch

structure Registry where
  endpoints : List Endpoint
  deriving DecidableEq, Repr

namespace Registry

/-- The key that the list is stored under. -/
def storeKey : String := "rdp-instances"

def default : Registry := ⟨[Endpoint.default]⟩

/-- Keeps only the first active flag. -/
def keepFirstActive : List Endpoint → List Endpoint
  | [] => []
  | endpoint :: rest =>
    if endpoint.isActive then endpoint :: rest.map ({ · with isActive := false })
    else endpoint :: keepFirstActive rest

def ofList (endpoints : List Endpoint) : Registry := ⟨keepFirstActive endpoints⟩

/-- The registry that a stored value holds; a value that is no list of endpoints, or an empty one, is
as good as none. -/
def ofValue (value : Json) : Registry :=
  match Endpoint.listOfSource? (.ofJson value) with
  | none | some [] => default
  | some endpoints => ofList endpoints

/-- The registry of what a store answers: where there is nothing to be read, the default list is
taken. -/
def ofAnswer : Except StoreError (Option Json) → Registry
  | .ok (some value) => ofValue value
  | .ok none | .error _ => default

/-- Loading never fails. -/
def load (store : Store) : Registry := ofAnswer (store.load storeKey)

/-- The list as it is stored, with the members of each endpoint in order of their names. -/
def toValue (registry : Registry) : Json :=
  .array (registry.endpoints.map fun endpoint =>
    match endpoint.toJson with
    | .object members => .object (Dictionary.ofList members)
    | other => other)

def save (registry : Registry) (store : Store) : Except StoreError Unit × Store :=
  store.save storeKey registry.toValue

def get? (registry : Registry) (id : String) : Option Endpoint := registry.endpoints.find? (·.id == id)

def active? (registry : Registry) : Option Endpoint := registry.endpoints.find? (·.isActive)

def urls (registry : Registry) : List String := registry.endpoints.map (·.url)

/-- The ids that are tried for a new endpoint: a stamp alone, and then with numbers. -/
def candidate (stamp : String) : Nat → String
  | 0 => stamp
  | n + 1 => s!"{stamp}-{n + 1}"

/-- The first candidate that is not taken. One more candidate than there are endpoints is enough. -/
def freshId (registry : Registry) (stamp : String) : String :=
  (((List.range (registry.endpoints.length + 1)).map (candidate stamp)).find?
    fun id => (registry.get? id).isNone).getD stamp

/-- Adds an inactive endpoint, whose id is made from a stamp of the time. -/
def add (registry : Registry) (stamp name url : String) : String × Registry :=
  let id := registry.freshId stamp
  (id, ⟨registry.endpoints ++ [{ id := id, name := name, url := url }]⟩)

/-- Changes the first element that a test holds for. -/
def changeFirst (test : Endpoint → Bool) (change : Endpoint → Endpoint) :
    List Endpoint → List Endpoint
  | [] => []
  | endpoint :: rest =>
    if test endpoint then change endpoint :: rest else endpoint :: changeFirst test change rest

def update (registry : Registry) (id name url : String) : Except StoreError Registry :=
  match registry.get? id with
  | none => .error (.unknownEndpoint id)
  | some _ => .ok ⟨changeFirst (·.id == id) ({ · with name, url }) registry.endpoints⟩

/-- Removes the first endpoint of an id, and answers it. -/
def remove (registry : Registry) (id : String) : Except StoreError (Endpoint × Registry) :=
  match registry.get? id with
  | none => .error (.unknownEndpoint id)
  | some endpoint => .ok (endpoint, ⟨registry.endpoints.eraseP (·.id == id)⟩)

def setActive (registry : Registry) (id : String) : Except StoreError Registry :=
  match registry.get? id with
  | none => .error (.unknownEndpoint id)
  | some _ =>
    .ok ⟨registry.endpoints.map fun endpoint => { endpoint with isActive := endpoint.id == id }⟩

end Registry
end ProxyWatch
