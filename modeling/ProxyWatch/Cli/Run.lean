import ProxyWatch.Api.Client
import ProxyWatch.Cli.Follow
import ProxyWatch.Cli.Health

/-! The program: its arguments, its settings, its commands. -/
namespace ProxyWatch.Cli
variable [Url.Idna]
variable {m : Type → Type} [Monad m]

/-- The endpoint that is given, or the one of the settings, or the active one of the list. -/
def chosenEndpoint (given : Option String) (settings : Settings) (registry : Registry) : Endpoint :=
  match given.or settings.endpoint with
  | some url => { id := "cli", name := url, url }
  | none => registry.active?.getD .default

/-- The names that a file of settings may have: its path, or the path without an ending. -/
def settingsPaths (path : String) : List String := [path, path ++ ".toml", path ++ ".json"]

namespace World

/-- The first of some files that is there. -/
def findText (world : World m) : List String → m (Option (String × String))
  | [] => pure none
  | path :: rest => do
    match ← world.readText path with
    | some text => pure (some (path, text))
    | none => findText world rest

def settings (world : World m) (config : Option String) : m (Except Settings.LoadError Settings) := do
  let environment ← world.environment
  match config with
  | none => pure (Settings.load environment none)
  | some path =>
    match ← world.findText (settingsPaths path) with
    | some (path, text) => pure (Settings.load environment (some (path, some text)))
    | none => pure (Settings.load environment (some (path, none)))

/-- Makes a call on an endpoint. -/
def call (world : World m) (endpoint : Endpoint) (settings : Settings) (call : Api.Call) :
    m (Except Failure Json) := do
  match Api.Client.forEndpoint endpoint.url with
  | .error _ => pure (.error (.invalidEndpoint endpoint.url))
  | .ok client =>
    match call.toRequest client with
    | .error error => pure (.error (.request error))
    | .ok request =>
      match ← world.exchange settings.requestTimeout [request] with
      | reply :: _ => pure ((call.finish request.url reply).mapError .request)
      | [] => pure (.error (.request .timeout))

/-- Makes a call and prints what its result is worth saying. -/
def announce (world : World m) (endpoint : Endpoint) (settings : Settings) (call : Api.Call)
    (line : Json → String) : m (Except Failure Unit) := do
  match ← world.call endpoint settings call with
  | .error failure => pure (.error failure)
  | .ok value =>
    world.print (line value)
    pure (.ok ())

def closedLine (id : String) : Json → String
  | .bool true => s!"Closed {id}"
  | _ => s!"No connection {id}"

def perform (world : World m) (invocation : Invocation) (settings : Settings) :
    m (Except Failure Unit) := do
  let endpoint : m Endpoint := do
    pure (chosenEndpoint invocation.endpoint settings (← world.registry settings.storeDirectory))
  match invocation.command with
  | .endpoints command => world.endpoints settings.storeDirectory command
  | .health watch => world.health settings watch
  | .connections totalsOnly => world.connections (← endpoint) settings totalsOnly
  | .logs filter => world.logs (← endpoint) settings filter
  | .select net selected =>
    world.announce (← endpoint) settings (.select net selected) fun _ => s!"{net} -> {selected}"
  | .closeConnection id => world.announce (← endpoint) settings (.closeConnection id) (closedLine id)

/-- Runs the program and answers its exit code: 2 for arguments that lead to no command, 1 for a command that
fails, 101 for one that panics. -/
def run (world : World m) (arguments : List String) : m Nat := do
  match Invocation.parse arguments with
  | .error refusal =>
    match refusal.guidance grammar with
    | .help lines =>
      lines.forM world.print
      pure 0
    | .complaint lines =>
      lines.forM world.complain
      pure 2
  | .ok invocation =>
    let result ← match ← world.settings invocation.config with
      | .error error => pure (.error (.settings error))
      | .ok settings => world.perform invocation settings
    match result with
    | .ok () => pure 0
    | .error failure =>
      world.complain failure.complaint
      pure failure.exitCode

end World
end ProxyWatch.Cli
