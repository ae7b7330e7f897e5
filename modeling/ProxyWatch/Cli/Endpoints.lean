import ProxyWatch.Cli.Command
import ProxyWatch.Cli.Report
import ProxyWatch.Cli.World
import ProxyWatch.Endpoint.Registry
import ProxyWatch.Url.Reader

/-! The commands on the stored list of endpoints. -/
namespace ProxyWatch.Cli
variable [Url.Idna]
variable {m : Type → Type} [Monad m]

namespace EndpointCommand

/-- Whether a command makes a new id. -/
def makesId : EndpointCommand → Bool
  | add _ url => (Url.parse? url).isSome
  | list | remove _ | use _ => false

/-- What a command prints, and the list that it saves, if it saves one. -/
def apply (registry : Registry) (stamp : String) :
    EndpointCommand → Except Failure (List String × Option Registry)
  | list => .ok (registry.endpoints.map listLine, none)
  | add name url =>
    if (Url.parse? url).isNone then .error (.invalidUrl url)
    else
      let (id, registry) := registry.add stamp name url
      .ok ([s!"Added {id}"], some registry)
  | remove id =>
    match registry.remove id with
    | .error error => .error (.store error)
    | .ok (removed, registry) => .ok ([s!"Removed {removed.name}"], some registry)
  | use id =>
    match registry.setActive id with
    | .error error => .error (.store error)
    | .ok registry => .ok ([s!"Active endpoint is now {id}"], some registry)

end EndpointCommand

namespace World

/-- The stored list of endpoints. -/
def registry (world : World m) (directory : String) : m Registry := do
  pure (.ofAnswer (← world.loadValue directory Registry.storeKey))

/-- Applies a command to the stored list. What it prints is printed before the list is saved. -/
def endpoints (world : World m) (directory : String) (command : EndpointCommand) :
    m (Except Failure Unit) := do
  let registry ← world.registry directory
  let stamp ← if command.makesId then world.stamp else pure ""
  match command.apply registry stamp with
  | .error failure => pure (.error failure)
  | .ok (lines, changed) =>
    lines.forM world.print
    match changed with
    | none => pure (.ok ())
    | some registry =>
      pure ((← world.saveValue directory Registry.storeKey registry.toValue).mapError .store)

end World
end ProxyWatch.Cli
