import ProxyWatch.Document.Patch
import ProxyWatch.Json.Printer

/-! Messages of the connection stream: a whole document, or a patch of the last one. -/
namespace ProxyWatch
open Json (Source)

inductive Message where
  | full (document : Json)
  | patch (operations : Patch)
  deriving Repr

namespace Message

/-- A message is an object with one member, named for its kind. -/
def ofSource? : Source → Option Message
  | .object [(some "full", document)] =>
    (document.value? (Source.nestingLimit - 1)).map full
  | .object [(some "patch", operations)] =>
    (Patch.ofSource? (Source.nestingLimit - 1) operations).map patch
  | _ => none

def parse? (payload : String) : Option Message := (Source.parse? payload).bind ofSource?

def toJson : Message → Json
  | full document => .object [("full", document)]
  | patch operations => .object [("patch", Patch.toJson operations)]

def toText (message : Message) : String := message.toJson.toText

def isFull : Message → Bool
  | full _ => true
  | patch _ => false

def operationCount : Message → Nat
  | full _ => 0
  | patch operations => operations.length

end Message
end ProxyWatch
