import ProxyWatch.Json.Record

/-! The bodies of the control interface's requests and answers. -/
namespace ProxyWatch.Api
open Json (Source)

/-- A configuration to import, by the kind of its source. -/
structure ImportSource where
  kind : String
  data : Json.Members
  deriving Repr

namespace ImportSource

def ofSource? (tree : Source) : Option ImportSource := do
  let [kind, data] ← tree.slots? ["type", "data"] | none
  pure ⟨← (← kind).text?, ← (← data).table? (Source.nestingLimit - 1)⟩

def toJson (source : ImportSource) : Json :=
  .object [("type", .string source.kind), ("data", .object source.data)]

end ImportSource

/-- How long a net took to connect and to answer. -/
structure Delay where
  connect : Nat
  response : Nat
  deriving DecidableEq, Repr

namespace Delay

def ofSource? (tree : Source) : Option Delay := do
  let [connect, response] ← tree.slots? ["connect", "response"] | none
  pure ⟨← (← connect).counter?, ← (← response).counter?⟩

def toJson (delay : Delay) : Json :=
  .object [("connect", .ofNat delay.connect), ("response", .ofNat delay.response)]

end Delay

/-- The keys of the stored user data. -/
structure UserDataKeys where
  keys : List String
  deriving DecidableEq, Repr

namespace UserDataKeys

def ofSource? (tree : Source) : Option UserDataKeys := do
  let [keys] ← tree.slots? ["keys"] | none
  pure ⟨← (← keys).texts?⟩

def toJson (list : UserDataKeys) : Json := .object [("keys", .array (list.keys.map .string))]

end UserDataKeys

/-- The plugins by kind and name. -/
abbrev Plugins := Dictionary Json.Members

namespace Plugins

def ofSource? (tree : Source) : Option Plugins := do
  let members ← tree.table? Source.nestingLimit
  members.mapM fun (kind, plugins) => do pure (kind, ← plugins.members?)

def toJson (plugins : Plugins) : Json := .object (plugins.map fun (kind, named) => (kind, .object named))

end Plugins

/-- A net: its kind, and whatever else it is configured with. -/
structure Net where
  kind : String
  options : Json.Members
  deriving Repr

namespace Net

def ofSource? (tree : Source) : Option Net :=
  match tree with
  | .object members => do
    let [kind] ← tree.slots? ["type"] | none
    let others ← Source.members? (Source.nestingLimit - 1) (members.filter (·.1 != some "type"))
    pure ⟨← (← kind).text?, .ofList others⟩
  | _ => none

def toJson (net : Net) : Json := .object (("type", .string net.kind) :: net.options)

/-- The nets that a selecting net selects from. -/
def selectList (net : Net) : Option (List String) :=
  if net.kind = "select" then do
    pure ((← (← net.options.get? "list").items?).filterMap Json.text?)
  else none

end Net

/-- How many bytes a store took up. -/
def copiedOfSource? (tree : Source) : Option Nat := do
  let [copied] ← tree.slots? ["copied"] | none
  (← copied).counter?

/-- Whether something was removed. -/
def removedOfSource? (tree : Source) : Option Bool := do
  let [ok] ← tree.slots? ["ok"] | none
  (← ok).bool?

end ProxyWatch.Api
