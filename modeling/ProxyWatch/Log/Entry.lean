import ProxyWatch.Json.Printer
import ProxyWatch.Log.Context
import ProxyWatch.Log.Level
import ProxyWatch.Text.Lowercase

/-! Log entries: reading, writing, and what is shown of them and searched in them. -/
namespace ProxyWatch
open Json (Source)

structure LogEntry where
  timestamp : String
  levelText : String
  message : Option String := none
  target : Option String := none
  fields : Json.Members := []
  deriving Repr

namespace LogEntry

def members : List String := ["timestamp", "level", "message", "target", "fields"]

def ofSource? (tree : Source) : Option LogEntry := do
  let [timestamp, level, message, target, fields] ← tree.slots? members | none
  pure {
    timestamp := ← (← timestamp).text?
    levelText := ← (← level).text?
    message := ← Source.optional? Source.text? message
    target := ← Source.optional? Source.text? target
    fields := ← Source.defaulting? [] (Source.table? (Source.nestingLimit - 1)) fields }

def parse? (payload : String) : Option LogEntry := (Source.parse? payload).bind ofSource?

/-- Message and target are left out if they are missing. -/
def toJson (entry : LogEntry) : Json :=
  let text (name : String) (value : Option String) : List (String × Json) :=
    match value with
    | none => []
    | some value => [(name, .string value)]
  .object ([("timestamp", .string entry.timestamp), ("level", .string entry.levelText)] ++
    text "message" entry.message ++ text "target" entry.target ++ [("fields", .object entry.fields)])

def toText (entry : LogEntry) : String := entry.toJson.toText

def level (entry : LogEntry) : LogLevel := .parse entry.levelText

/-- The message among the fields, if it is a text, stands before the entry's own. -/
def displayMessage (entry : LogEntry) : Option String :=
  ((entry.fields.get? "message").bind Json.text?).or entry.message

/-- The context is a field that holds an object, or the text of one. -/
def context (entry : LogEntry) : Option LogContext := do
  match ← entry.fields.get? "ctx" with
  | .string text => LogContext.ofSource? (← Source.parse? text)
  | .object context => LogContext.ofSource? (.ofJson (.object context))
  | _ => none

/-- The fields that are not shown otherwise. -/
def extraFields (entry : LogEntry) : Json.Members :=
  entry.fields.filter fun (name, _) => name != "message" && name != "ctx"

/-- Whether a query occurs in the message, the level or the target, or, if there is a context, in the
text of the fields, without regard to case. -/
def isMatch (query : String) (entry : LogEntry) : Bool :=
  query.isEmpty ||
    let needle := Text.lowercase query
    let found (text : String) : Bool := Text.occursIn needle (Text.lowercase text)
    entry.displayMessage.any found || found entry.levelText || entry.target.any found ||
      (entry.fields.contains "ctx" && found (Json.object entry.fields).toText)

/-- An entry with a message alone. -/
def ofMessage (timestamp level message : String) : LogEntry :=
  { timestamp, levelText := level, message := some message }

end LogEntry
end ProxyWatch
