import ProxyWatch.Api.Exchange
import ProxyWatch.Endpoint.Store
import ProxyWatch.Settings.Load
import ProxyWatch.Stream.Driver

/-! The outside, as far as commands reach it. -/
namespace ProxyWatch.Cli

/-- What commands ask of the outside. Dialling, receiving and sleeping end with the signal to stop when
they are interrupted. A loop goes on as long as its step leads to a next state, and answers the last
one. -/
structure World (m : Type → Type) where
  environment : m Environment
  readText : String → m (Option String)
  loadValue : (directory key : String) → m (Except StoreError (Option Json))
  saveValue : (directory key : String) → Json → m (Except StoreError Unit)
  /-- The time as it stands in a new id. -/
  stamp : m String
  /-- Milliseconds on a clock that never goes back. -/
  now : m Nat
  print : String → m Unit
  complain : String → m Unit
  /-- Sends requests at once, each with the same timeout, and waits for all replies. -/
  exchange : (timeout : Nat) → List Api.Request → m (List Api.Reply)
  dial : Url → m Stream.Signal
  receive : m Stream.Signal
  /-- Whether what is received next has arrived already. -/
  hasArrived : m Bool
  sleep : (duration : Nat) → m Stream.Signal
  loop : {σ : Type} → (σ → m (Option σ)) → σ → m σ

/-- Why a command fails. -/
inductive Failure where
  | settings (error : Settings.LoadError)
  | store (error : StoreError)
  | invalidUrl (text : String)
  | invalidEndpoint (url : String)
  | request (error : Api.RequestError)
  | stream (error : Stream.TransportError)
  | gaveUp (url : String)
  /-- A buffer has no room, which is a panic. -/
  | overflow
  deriving DecidableEq, Repr

def Failure.message : Failure → String
  | settings error => error.message
  | store error => error.message
  | invalidUrl text => "Invalid url " ++ text
  | invalidEndpoint url => "Invalid endpoint " ++ url
  | request error => error.message
  | stream error => error.message
  | gaveUp url => "Gave up reconnecting to " ++ url
  | overflow => "capacity overflow"

/-- What is complained of; a panic also names its place in the code, which is left out. -/
def Failure.complaint : Failure → String
  | overflow => Failure.overflow.message
  | failure => "Error: " ++ failure.message

def Failure.exitCode : Failure → Nat
  | overflow => 101
  | _ => 1

end ProxyWatch.Cli
