import ProxyWatch.Cli.Endpoints
import ProxyWatch.Health.Probe
import ProxyWatch.Health.Timeline
import ProxyWatch.Settings.Basic

/-! Checking the stored endpoints, once or again and again. -/
namespace ProxyWatch.Cli
open ProxyWatch.Health (Poller)
variable [Url.Idna]
variable {m : Type → Type} [Monad m]

/-- Polling that goes on, and when the next check is due. -/
structure Polling where
  poller : Poller
  due : Nat
  ended : Bool := false

namespace World

/-- Probes all urls and waits for all of them. -/
def probe (world : World m) (timeout : Nat) (urls : List String) : m (Dictionary Bool) := do
  let targets := Health.wellFormed urls
  let replies ← world.exchange timeout (targets.map fun (_, url) => Health.probeRequest url)
  pure (.ofList ((targets.zip replies).map fun ((text, _), reply) =>
    (text, (Health.probeResult reply).isOk)))

/-- Asks for a check and waits for its result. A check that is joined has been applied already. -/
def refresh (world : World m) (urls : List String) (poller : Poller) : m (Dictionary Bool × Poller) := do
  let (id, started) := poller.request urls (← world.now)
  if started.nextId = poller.nextId then pure (poller.statuses, poller)
  else
    let result ← world.probe poller.timing.probeTimeout (Poller.keyOf urls)
    pure (result, started.complete id result (← world.now))

/-- The changes that a poller has seen since, first to last. -/
def changesSince (before after : Poller) : List Health.Change :=
  (after.changes.take (after.changes.length - before.changes.length)).reverse

/-- Waits for the next check, makes it and prints what has changed. -/
def poll (world : World m) (urls : List String) (polling : Polling) : m (Option Polling) := do
  if polling.ended then pure none
  else
    let signal ← world.sleep (polling.due - (← world.now))
    if signal = .stop then pure (some { polling with ended := true })
    -- without an interval nothing is checked again, and all that is left is to be stopped
    else if polling.poller.timing.interval = 0 then pure (some { polling with due := (← world.now) + 1000 })
    else
      let due := Health.Timeline.tickAfter polling.due (← world.now) polling.poller.timing.interval
      let (_, poller) ← world.refresh urls polling.poller
      (changesSince polling.poller poller).forM fun change => world.print (changeLine change)
      pure (some { polling with poller, due })

/-- Checks the stored endpoints, and goes on checking them if they are watched. -/
def health (world : World m) (settings : Settings) (watch : Bool) : m (Except Failure Unit) := do
  let registry ← world.registry settings.storeDirectory
  let (result, poller) ← world.refresh registry.urls { timing := settings.timing }
  registry.endpoints.forM fun endpoint =>
    world.print (healthLine endpoint (result.get? endpoint.url))
  if watch then
    let _ ← world.loop (world.poll registry.urls) { poller, due := ← world.now }
  pure (.ok ())

end World
end ProxyWatch.Cli
