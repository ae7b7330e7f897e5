import ProxyWatch.Cli.Run
import ProxyWatch.Proofs.Url.Domains
import ProxyWatch.Stream.Frame
import ProxyWatch.Stream.Handshake
import Std.Async.DNS
import Std.Async.Signal
import Std.Async.TCP
import Std.Async.Timer

/-! The program over the files, the network and the clock of its process. -/
namespace ProxyWatch.Outside
open Std.Async Std.Net
variable [Url.Idna]

/-- The WebSocket connection that is open, and the interrupt once it is waited for. -/
structure Process where
  socket : IO.Ref (Option (TCP.Socket.Client × Stream.Inbox))
  interrupt : IO.Ref (Option (AsyncTask Int))

def sleepTask (milliseconds : Nat) : IO (AsyncTask Unit) :=
  Async.toIO (Std.Async.sleep (.ofNat milliseconds))

/-- The addresses of a url's host. -/
def resolve (url : Url) : IO (List SocketAddress) := do
  let port := (url.effectivePort?.getD 80).toUInt16
  let host := String.ofList (url.hostText.toList.filter fun c => c != '[' && c != ']')
  let found ← (DNS.getAddrInfo host (toString port)).block
  pure (found.toList.map fun
    | .v4 addr => .v4 { addr, port }
    | .v6 addr => .v6 { addr, port })

/-- Connects to the first of some addresses that can be reached. -/
def connect : List SocketAddress → IO TCP.Socket.Client
  | [] => throw (IO.userError "no address can be reached")
  | address :: rest =>
    try
      let client ← TCP.Socket.Client.mk
      (client.connect address).block
      pure client
    catch _ => connect rest

def send (client : TCP.Socket.Client) (bytes : List UInt8) : IO Unit :=
  (client.send (ByteArray.mk bytes.toArray)).block

def chunkSize : UInt64 := 65536

partial def receiveReply (client : TCP.Socket.Client) (method : String) (bytes : List UInt8) :
    IO Api.Reply := do
  match Api.reply? method false bytes with
  | some reply => pure reply
  | none =>
    match ← (client.recv? chunkSize).block with
    | some data => receiveReply client method (bytes ++ data.toList)
    | none => pure ((Api.reply? method true bytes).getD .dropped)

/-- Connects, if the connection need not be encrypted. -/
def reach (url : Url) : IO (Option TCP.Socket.Client) := do
  if url.scheme = "https" then pure none
  else try pure (some (← connect (← resolve url))) catch _ => pure none

def exchangeOne (request : Api.Request) : IO Api.Reply := do
  if request.url.scheme ≠ "http" ∧ request.url.scheme ≠ "https" then pure .notSendable
  else
    match ← reach request.url with
    | none => pure .refused
    | some client =>
      try
        send client request.toBytes
        receiveReply client request.method.name []
      catch _ => pure .dropped

def exchange (timeout : Nat) (requests : List Api.Request) : IO (List Api.Reply) := do
  let tasks ← requests.mapM fun request => IO.asTask (exchangeOne request) Task.Priority.dedicated
  let timer ← sleepTask timeout
  tasks.mapM fun task => IO.waitAny [
    Task.map (fun reply => reply.toOption.getD Api.Reply.dropped) task,
    Task.map (fun _ => Api.Reply.timedOut) timer]

/-- The interrupt of the process. From its first use on it no longer ends the process by itself. -/
def Process.interruption (process : Process) : IO (AsyncTask Int) := do
  match ← process.interrupt.get with
  | some task => pure task
  | none =>
    let task ← (← Signal.Waiter.mk .sigint false).wait
    process.interrupt.set (some task)
    pure task

/-- What a task comes to, or none if the process is interrupted before. -/
def Process.await {α : Type} (process : Process) (task : AsyncTask α) :
    IO (Option (Except IO.Error α)) := do
  IO.waitAny [Task.map (fun _ => none) (← process.interruption), Task.map some task]

partial def receiveHead (client : TCP.Socket.Client) (bytes : List UInt8) :
    IO (Option (Api.Head × List UInt8)) := do
  match Api.splitHead bytes with
  | some (head, rest) => pure ((Api.Head.parse? head).map (·, rest))
  | none =>
    match ← (client.recv? chunkSize).block with
    | some data => receiveHead client (bytes ++ data.toList)
    | none => pure none

def openSocket (address : Url) : IO (TCP.Socket.Client × Stream.Inbox) := do
  if address.scheme ≠ "ws" then throw (IO.userError "no encrypted connections")
  let client ← connect (← resolve address)
  send client (Stream.Handshake.request address)
  match ← receiveHead client [] with
  | some (head, bytes) =>
    if Stream.Handshake.isAccepted head then pure (client, { bytes })
    else throw (IO.userError s!"HTTP error: {head.status}")
  | none => throw (IO.userError "no answer")

def Process.dial (process : Process) (address : Url) : IO Stream.Signal := do
  match ← process.await (← IO.asTask (openSocket address) Task.Priority.dedicated) with
  | none => pure .stop
  | some (.error error) => pure (.refused (.connect (toString error)))
  | some (.ok opened) =>
    process.socket.set (some opened)
    pure .accepted

/-- Masks a frame by a fresh key and sends it. -/
def answer (client : TCP.Socket.Client) (frame : Stream.Frame) : IO Unit := do
  let key ← (List.range 4).mapM fun _ => do pure (← IO.rand 0 255).toUInt8
  send client (frame.encodeMasked key)

partial def Process.receive (process : Process) : IO Stream.Signal := do
  match ← process.socket.get with
  | none => pure .ended
  | some (client, inbox) =>
    match inbox.step with
    | some (receipt, reply, inbox) =>
      try reply.forM (answer client) catch _ => pure ()
      process.socket.set (some (client, inbox))
      match receipt with
      | .message payload => pure (.message payload)
      | .closed => pure .ended
      | .failed => pure (.failed (.read "malformed frame"))
      | .nothing _ => process.receive
    | none =>
      match ← process.await (← Async.toIO (client.recv? chunkSize)) with
      | none => pure .stop
      | some (.ok (some data)) =>
        process.socket.set (some (client, { inbox with bytes := inbox.bytes ++ data.toList }))
        process.receive
      | some (.ok none) => pure (.failed (.read "connection lost without a close frame"))
      | some (.error error) => pure (.failed (.read (toString error)))

def Process.hasArrived (process : Process) : IO Bool := do
  pure (((← process.socket.get).bind (·.2.step)).isSome)

def Process.sleep (process : Process) (milliseconds : Nat) : IO Stream.Signal := do
  match ← process.await (← sleepTask milliseconds) with
  | none => pure .stop
  | some _ => pure .elapsed

def environment : IO Environment := do
  try
    let bytes ← IO.FS.readBinFile "/proc/self/environ"
    let text := String.ofList (Utf8.decodeLossy bytes.toList)
    pure ((text.splitOn "\x00").filterMap fun entry =>
      match entry.toList.span (· != '=') with
      | (name, '=' :: value) => some (String.ofList name, String.ofList value)
      | _ => none)
  catch _ => pure []

def faultOf : IO.Error → FileFault
  | .noFileOrDirectory .. => .missing
  | .alreadyExists .. => .taken
  | error => .other (toString error)

def keyPath (directory key : String) : String :=
  Environment.joinPath directory (FileStore.fileName key)

def loadValue (directory key : String) : IO (Except StoreError (Option Json)) := do
  try
    match Json.parse? (← IO.FS.readFile (keyPath directory key)) with
    | some value => pure (.ok (some value))
    | none => pure (.error .encoding)
  catch error =>
    match faultOf error with
    | .missing => pure (.ok none)
    | fault => pure (.error (.io fault))

/-- Writes a draft beside the file and renames it. -/
def saveValue (directory key : String) (value : Json) : IO (Except StoreError Unit) := do
  try
    IO.FS.createDirAll directory
    let draft := Environment.joinPath directory (FileStore.draftName key)
    IO.FS.writeFile draft value.toIndentedText
    IO.FS.rename draft (keyPath directory key)
    pure (.ok ())
  catch error => pure (.error (.io (faultOf error)))

def stamp : IO String := do
  pure (toString (← Std.Time.Timestamp.now).toMillisecondsSinceUnixEpoch.val)

def printLine (stream : IO.FS.Stream) (line : String) : IO Unit := do
  stream.putStrLn line
  stream.flush

partial def loop {σ : Type} (step : σ → IO (Option σ)) (state : σ) : IO σ := do
  match ← step state with
  | none => pure state
  | some next => loop step next

def Process.world (process : Process) : Cli.World IO where
  environment := environment
  readText path := do
    try pure (some (← IO.FS.readFile path)) catch _ => pure none
  loadValue := loadValue
  saveValue := saveValue
  stamp := stamp
  now := IO.monoMsNow
  print line := do printLine (← IO.getStdout) line
  complain line := do printLine (← IO.getStderr) line
  exchange := exchange
  dial := process.dial
  receive := process.receive
  hasArrived := process.hasArrived
  sleep := process.sleep
  loop := loop

end ProxyWatch.Outside

def main (arguments : List String) : IO UInt32 := do
  let process : ProxyWatch.Outside.Process :=
    { socket := ← IO.mkRef none, interrupt := ← IO.mkRef none }
  pure (← process.world.run arguments).toUInt32
