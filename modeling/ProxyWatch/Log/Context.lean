import ProxyWatch.Json.Record

/-! The connection that a log entry is about. -/
namespace ProxyWatch
open Json (Source)

structure LogContext where
  source : Option String := none
  destination : Option String := none
  domain : Option String := none
  nets : List String := []
  deriving DecidableEq, Repr

namespace LogContext

def members : List String := ["src_socket_addr", "dest_socket_addr", "dest_domain", "net_list"]

def ofSource? (tree : Source) : Option LogContext := do
  let [source, destination, domain, nets] ← tree.slots? members | none
  pure {
    source := ← Source.optional? Source.text? source
    destination := ← Source.optional? Source.text? destination
    domain := ← Source.optional? Source.text? domain
    nets := ← Source.defaulting? [] Source.texts? nets }

/-- A context is empty without addresses and domain, whatever nets it lists. -/
def isEmpty (context : LogContext) : Bool :=
  context.source.isNone && context.destination.isNone && context.domain.isNone

end LogContext
end ProxyWatch
