/-! What is known about a stream: why it closed, where its connection stands, what its consumer is
shown. -/
namespace ProxyWatch.Stream

inductive TransportError where
  | connect (message : String)
  | read (message : String)
  | invalidUrl (text : String)
  deriving DecidableEq, Repr

def TransportError.message : TransportError → String
  | connect message => "Connection failed: " ++ message
  | read message => "Read error: " ++ message
  | invalidUrl text => "Invalid stream url: " ++ text

inductive CloseReason where
  | explicit
  | remote
  | transport (message : String)
  | exhausted (attempts : Nat)
  deriving DecidableEq, Repr

namespace CloseReason

/-- After a terminal reason there is no reconnect. -/
def isTerminal : CloseReason → Bool
  | explicit | exhausted _ => true
  | remote | transport _ => false

def message : CloseReason → String
  | explicit => "closed by caller"
  | remote => "closed by peer"
  | transport message => message
  | exhausted attempts => s!"gave up after {attempts} reconnect attempts"

end CloseReason

inductive State where
  | connecting
  | opened
  | reconnecting (attempt : Nat)
  | closed (reason : CloseReason)
  deriving DecidableEq, Repr

def State.isClosed : State → Bool
  | closed _ => true
  | _ => false

inductive Status where
  | connecting
  | connected
  | stale
  | reconnecting (attempt : Nat)
  | disconnected
  | closed
  deriving DecidableEq, Repr

namespace Status

def afterClose : CloseReason → Status
  | .explicit => closed
  | _ => disconnected

def isLive : Status → Bool
  | connected | stale => true
  | _ => false

def message : Status → String
  | connecting => "connecting"
  | connected => "connected"
  | stale => "stale"
  | reconnecting attempt => s!"reconnecting (attempt {attempt})"
  | disconnected => "disconnected"
  | closed => "closed"

end Status
end ProxyWatch.Stream
