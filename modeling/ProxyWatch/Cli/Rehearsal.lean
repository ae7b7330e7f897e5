import ProxyWatch.Api.Server
import ProxyWatch.Cli.World
import ProxyWatch.Stream.Frame

/-! An outside that is known in advance: files, a web server, the sessions of a WebSocket server, and
a moment at which the program is interrupted. Time passes only where a command waits. -/
namespace ProxyWatch.Cli

/-- What a WebSocket connection delivers, which of it arrives together with what is delivered before it,
and whether the connection stays open then. -/
structure SocketSession where
  deliveries : List Stream.Delivery
  isHeld : Bool := false
  joined : List Bool := []
  deriving Repr

/-- The session of a server that sends its bytes in pieces, each after what the one before leads to. -/
def SocketSession.ofPieces (pieces : List (List UInt8)) (isHeld : Bool) : SocketSession :=
  let send (sent : SocketSession × List UInt8) (piece : List UInt8) : SocketSession × List UInt8 :=
    let bytes := sent.2 ++ piece
    let deliveries := Stream.deliver bytes
    let more := (List.range (deliveries.length - sent.1.deliveries.length)).map (decide <| 0 < ·)
    ({ deliveries, isHeld, joined := sent.1.joined ++ more }, bytes)
  (pieces.foldl send ({ deliveries := [], isHeld }, [])).1

/-- Files are known by their paths. Targets are kept latest first. -/
structure Rehearsal where
  environment : Environment := []
  files : Dictionary String := []
  stamps : List String := []
  server : Api.Server
  socketPort : Nat
  sessions : List SocketSession := []
  current : SocketSession := { deliveries := [] }
  targets : List String := []
  interruptAt : Option Nat := none
  now : Nat := 0
  output : String := ""
  complaints : List String := []
  deriving Repr

namespace Rehearsal

/-- The steps of a path. -/
def steps (path : String) : List String :=
  (path.splitOn "/").filter fun step => !step.isEmpty && step != "."

def ofSteps (steps : List String) : String := String.join (steps.map ("/" ++ ·))

/-- What a file is to a directory: the name and the entry that it makes there. -/
def entry? (directory : List String) (path text : String) : Option (String × FileEntry) :=
  let path := steps path
  if directory.isPrefixOf path then
    match path.drop directory.length with
    | [] => none
    | [name] => some (name, .file text)
    | name :: _ => some (name, .folder)
  else none

/-- What stands at the path of a directory. -/
def folder (files : Dictionary String) (directory : String) : FileStore :=
  let path := steps directory
  if files.any fun (file, _) => steps file == path then .obstructed .taken
  else if files.any fun (file, _) => (steps file).isPrefixOf path then .obstructed .notDirectory
  else
    match files.filterMap fun (file, text) => entry? path file text with
    | [] => .absent
    | entries => .directory (.ofList entries)

/-- Puts the files of a directory in the place of those there. -/
def refill (files : Dictionary String) (directory : String) (store : FileStore) : Dictionary String :=
  let path := steps directory
  let others := files.filter fun (file, text) =>
    match entry? path file text with
    | some (_, .file _) => false
    | _ => true
  store.entries.foldl (fun files (name, entry) =>
    match entry with
    | .file text => Dictionary.insert files (ofSteps (path ++ [name])) text
    | .binary | .folder => files) others

/-- The program is interrupted when it has printed so many lines and waits. -/
def isInterrupted (r : Rehearsal) : Bool :=
  r.interruptAt.any (· ≤ r.output.toList.count '\n')

/-- The signal of something that is waited for. -/
def unlessInterrupted (action : Rehearsal → Stream.Signal × Rehearsal) (r : Rehearsal) :
    Stream.Signal × Rehearsal :=
  if r.isInterrupted then (.stop, r) else action r

def refusal : Stream.Signal := .refused (.connect "refused")

/-- Dials the WebSocket server while it has sessions; the web server is reached, but refuses. -/
def dial (address : Url) (r : Rehearsal) : Stream.Signal × Rehearsal :=
  let isSocket := address.scheme = "ws" ∧ address.hostText = r.server.host ∧
    address.effectivePort? = some r.socketPort
  match r.sessions with
  | session :: sessions =>
    if isSocket then
      (.accepted, { r with sessions, current := session, targets := address.target :: r.targets })
    else knock r
  | [] => knock r
where
  knock (r : Rehearsal) : Stream.Signal × Rehearsal :=
    if address.scheme = "ws" then
      let (_, server) := r.server.exchange { method := .get, url := { address with scheme := "http" } }
      (refusal, { r with server })
    else (refusal, r)

/-- The next delivery. A held connection that has no more is only left by an interrupt. -/
def receive (r : Rehearsal) : Stream.Signal × Rehearsal :=
  match r.current.deliveries with
  | [] => (if r.current.isHeld then .stop else .ended, r)
  | delivery :: deliveries =>
    let signal : Stream.Signal := match delivery with
      | .message payload => .message payload
      | .closed => .ended
      | .failed => .failed (.read "malformed frame")
    (signal, { r with current := { r.current with deliveries, joined := r.current.joined.drop 1 } })

def hasArrived (r : Rehearsal) : Bool := !r.isInterrupted && r.current.joined.headD false

def exchange (timeout : Nat) (requests : List Api.Request) (r : Rehearsal) : List Api.Reply × Rehearsal :=
  let (replies, server) := requests.foldl (fun (replies, server) request =>
    let (reply, server) := Api.Server.exchange server request
    (replies ++ [reply], server)) ([], r.server)
  let waited := if replies.contains .timedOut then timeout else 0
  (replies, { r with server, now := r.now + waited })

/-- More rounds than any loop of a rehearsal takes. -/
def patience : Nat := 1000000

def iterate {σ : Type} (step : σ → StateM Rehearsal (Option σ)) : Nat → σ → StateM Rehearsal σ
  | 0, state => pure state
  | fuel + 1, state => do
    match ← step state with
    | none => pure state
    | some next => iterate step fuel next

def world : World (StateM Rehearsal) where
  environment := do pure (← get).environment
  readText path := do pure ((← get).files.get? (ofSteps (steps path)))
  loadValue directory key := do pure ((folder (← get).files directory).load key)
  saveValue directory key value := do
    let r ← get
    let (result, store) := (folder r.files directory).save key value
    set { r with files := refill r.files directory store }
    pure result
  stamp := modifyGet fun r => (r.stamps.headD "", { r with stamps := r.stamps.drop 1 })
  now := do pure (← get).now
  print line := modify fun r => { r with output := r.output ++ line ++ "\n" }
  complain line := modify fun r => { r with complaints := r.complaints ++ [line] }
  exchange timeout requests := modifyGet (exchange timeout requests)
  dial address := modifyGet (unlessInterrupted (dial address))
  receive := modifyGet (unlessInterrupted receive)
  hasArrived := do pure (← get).hasArrived
  sleep duration :=
    modifyGet (unlessInterrupted fun r => (.elapsed, { r with now := r.now + duration }))
  loop step start := iterate step patience start

end Rehearsal
end ProxyWatch.Cli
