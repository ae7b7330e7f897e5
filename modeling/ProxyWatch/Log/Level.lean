/-! Log levels, from the least severe. -/
namespace ProxyWatch

inductive LogLevel where
  | trace
  | debug
  | info
  | warn
  | error
  | other
  deriving DecidableEq, Repr

namespace LogLevel

/-- Only ASCII letters are read without regard to case. -/
def parse (text : String) : LogLevel :=
  match text.map Char.toLower with
  | "trace" => trace
  | "debug" => debug
  | "info" => info
  | "warn" => warn
  | "warning" => warn
  | "error" => error
  | _ => other

def label : LogLevel → String
  | trace => "TRACE"
  | debug => "DEBUG"
  | info => "INFO"
  | warn => "WARN"
  | error => "ERROR"
  | other => "?"

def severity : LogLevel → Nat
  | trace => 0
  | debug => 1
  | info => 2
  | warn => 3
  | error => 4
  | other => 5

end LogLevel
end ProxyWatch
