import ProxyWatch.Data.Dictionary
import ProxyWatch.Url.Reader

/-! Probing many endpoints at once, each within a timeout. -/
namespace ProxyWatch.Health
variable [Url.Idna]

/-- How the probe of an endpoint goes: it answers after a delay, it never answers, or it dies. -/
inductive Behaviour where
  | answers (delay : Nat) (isOnline : Bool)
  | hangs
  | crashes (delay : Nat)
  deriving DecidableEq, Repr

namespace Behaviour

/-- How long a probe is waited for. -/
def duration (timeout : Nat) : Behaviour → Nat
  | answers delay _ | crashes delay => min delay timeout
  | hangs => timeout

/-- An endpoint is online if it answers so no later than the timeout. -/
def isOnline (timeout : Nat) : Behaviour → Bool
  | answers delay online => online && delay ≤ timeout
  | hangs | crashes _ => false

/-- When a probe dies, if it does so in time. -/
def crash? (timeout : Nat) : Behaviour → Option Nat
  | crashes delay => if delay ≤ timeout then some delay else none
  | answers _ _ | hangs => none

end Behaviour

/-- The behaviours of hosts. A host that is not listed is offline at once. -/
abbrev Hosts := Dictionary Behaviour

namespace Hosts

def behaviour (hosts : Hosts) (url : Url) : Behaviour := (hosts.get? url.hostText).getD (.answers 0 false)

/-- The calls that a check makes of some texts, each with the way that it goes. Those that are no urls are not called at
all. -/
def probes (hosts : Hosts) (texts : List String) : List (String × Behaviour) :=
  texts.map fun text => (text, ((Url.parse? text).map hosts.behaviour).getD .hangs)

end Hosts

/-- What comes of a check: the urls probed, how long it takes, and its result unless it dies. -/
structure Check where
  probed : List Url
  duration : Nat
  result : Option (Dictionary Bool)
  deriving Repr

/-- The texts that are urls. -/
def wellFormed (texts : List String) : List (String × Url) :=
  texts.filterMap fun text => (Url.parse? text).map (text, ·)

/-- The calls whose texts are urls. The others are skipped. -/
def probing (calls : List (String × Behaviour)) : List (String × Behaviour) :=
  calls.filter fun call => (Url.parse? call.1).isSome

/-- The probes that begin: one that dies at once keeps those after it from beginning. -/
def begun (timeout : Nat) : List (String × Behaviour) → List (String × Behaviour)
  | [] => []
  | probe :: rest =>
    if probe.2.crash? timeout = some 0 then [probe] else probe :: begun timeout rest

/-- Probes all urls at once and waits for all of them, however each of the calls goes. The probe that dies first ends
the check. -/
def checkAll (timeout : Nat) (calls : List (String × Behaviour)) : Check :=
  let probes := begun timeout (probing calls)
  let probed := probes.filterMap fun call => Url.parse? call.1
  match (probes.filterMap (·.2.crash? timeout)).min? with
  | some death => { probed, duration := death, result := none }
  | none =>
    { probed
      duration := ((probes.map (·.2.duration timeout)).max?).getD 0
      result := some (.ofList ((probing calls).map fun call => (call.1, call.2.isOnline timeout))) }

end ProxyWatch.Health
