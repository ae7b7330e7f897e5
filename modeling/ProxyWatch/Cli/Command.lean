import ProxyWatch.Cli.Grammar

/-! The commands of the program. -/
namespace ProxyWatch.Cli

inductive EndpointCommand where
  | list
  | add (name url : String)
  | remove (id : String)
  | use (id : String)
  deriving DecidableEq, Repr

inductive Command where
  | connections (totalsOnly : Bool)
  | logs (filter : String)
  | health (watch : Bool)
  | endpoints (command : EndpointCommand)
  | select (net selected : String)
  | closeConnection (id : String)
  deriving DecidableEq, Repr

/-- A command with what is settled beside it. -/
structure Invocation where
  config : Option String := none
  endpoint : Option String := none
  command : Command
  deriving DecidableEq, Repr

def endpointsGrammar : Grammar where
  name := "endpoints"
  about := "Manage stored endpoints"
  commands := [
    { name := "list", about := "List stored endpoints" },
    { name := "add", about := "Add an endpoint", arguments := ["NAME", "URL"] },
    { name := "remove", about := "Remove an endpoint by id", arguments := ["ID"] },
    { name := "use", about := "Make an endpoint the active one", arguments := ["ID"] }]

def grammar : Grammar where
  name := "rdwatch"
  about := "Live connection, log and endpoint health watcher for rabbit-digger"
  options := [
    { short := some 'c', long := "config", placeholder := some "CONFIG", mayBeEmpty := false
      about := "Path to a TOML settings file" },
    { short := some 'e', long := "endpoint", placeholder := some "ENDPOINT"
      about := "Control url to use instead of the active stored endpoint" }]
  commands := [
    { name := "connections", about := "Follow active connections and their rates"
      options := [{
        long := "totals-only"
        about := "Only receive totals, not per-connection records" }] },
    { name := "logs", about := "Follow the log stream"
      options := [{
        short := some 'f', long := "filter", placeholder := some "FILTER"
        about := "Only print entries matching this text (case-insensitive)" }] },
    { name := "health", about := "Probe every stored endpoint"
      options := [{
        short := some 'w', long := "watch", about := "Keep polling and report status changes" }] },
    endpointsGrammar,
    { name := "select", about := "Switch a `select` net to one of its options"
      arguments := ["NET", "SELECTED"] },
    { name := "close-conn", about := "Close one connection by id", arguments := ["UUID"] }]

/-- The command of a reading. Only readings of the grammar have one. -/
def Reading.command? (reading : Reading) : Option Command :=
  match reading.path, reading.arguments with
  | ["connections"], [] => some (.connections (reading.value? "totals-only").isSome)
  | ["logs"], [] => some (.logs ((reading.value? "filter").getD ""))
  | ["health"], [] => some (.health (reading.value? "watch").isSome)
  | ["endpoints", "list"], [] => some (.endpoints .list)
  | ["endpoints", "add"], [name, url] => some (.endpoints (.add name url))
  | ["endpoints", "remove"], [id] => some (.endpoints (.remove id))
  | ["endpoints", "use"], [id] => some (.endpoints (.use id))
  | ["select"], [net, selected] => some (.select net selected)
  | ["close-conn"], [id] => some (.closeConnection id)
  | _, _ => none

/-- Reads the arguments of the program. -/
def Invocation.parse (arguments : List String) : Except Refusal Invocation := do
  let reading ← grammar.parse arguments
  match reading.command? with
  | some command =>
    pure { config := reading.value? "config", endpoint := reading.value? "endpoint", command }
  | none => .error (.fault reading.path .commandMissing)

end ProxyWatch.Cli
