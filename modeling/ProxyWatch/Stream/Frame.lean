import ProxyWatch.Stream.Script
import ProxyWatch.Text.Utf8

/-! WebSocket frames, and the messages that a server's frames make up. -/
namespace ProxyWatch.Stream

structure Frame where
  final : Bool := true
  reserved : Nat := 0
  opcode : Nat
  masked : Bool := false
  payload : List UInt8 := []
  deriving DecidableEq, Repr

namespace Frame

def continuation : Nat := 0
def textual : Nat := 1
def binary : Nat := 2
def closing : Nat := 8
def ping : Nat := 9
def pong : Nat := 10

def isKnown (opcode : Nat) : Bool :=
  [continuation, textual, binary, closing, ping, pong].contains opcode

def isControl (frame : Frame) : Bool := 8 ≤ frame.opcode

/-- The largest payload of a frame that is accepted. -/
def sizeLimit : Nat := 16 * 1024 * 1024

/-- A number in as many bytes, the most significant first. -/
def bigEndian (count n : Nat) : List UInt8 :=
  (List.range count).map fun i => (n / Nat.pow 256 (count - 1 - i) % 256).toUInt8

def ofBigEndian (bytes : List UInt8) : Nat := bytes.foldl (fun n byte => n * 256 + byte.toNat) 0

def firstByte (frame : Frame) : UInt8 :=
  ((if frame.final then 128 else 0) + frame.reserved * 16 + frame.opcode).toUInt8

/-- The length of a payload, written as short as can be. -/
def encodeSize (mark size : Nat) : List UInt8 :=
  if size < 126 then [(mark + size).toUInt8]
  else if size < 65536 then (mark + 126).toUInt8 :: bigEndian 2 size
  else (mark + 127).toUInt8 :: bigEndian 8 size

/-- The bytes of an unmasked frame. -/
def encode (frame : Frame) : List UInt8 :=
  frame.firstByte :: (encodeSize 0 frame.payload.length ++ frame.payload)

/-- The bytes of a frame masked by a key of four bytes. -/
def encodeMasked (key : List UInt8) (frame : Frame) : List UInt8 :=
  let masked := frame.payload.mapIdx fun i byte => byte ^^^ (key[i % 4]?.getD 0)
  frame.firstByte :: (encodeSize 128 frame.payload.length ++ key ++ masked)

inductive Reading where
  | incomplete
  | malformed
  | complete (frame : Frame) (rest : List UInt8)
  deriving Repr

/-- Reads the payload of a frame once its length is known. A masked frame keeps its key. -/
def readPayload (frame : Frame) (size : Nat) (bytes : List UInt8) : Reading :=
  let keySize := if frame.masked then 4 else 0
  if bytes.length < keySize then .incomplete
  else if !isKnown frame.opcode || sizeLimit < size then .malformed
  else
    let bytes := bytes.drop keySize
    if bytes.length < size then .incomplete
    else .complete { frame with payload := bytes.take size } (bytes.drop size)

/-- Reads the frame that bytes begin with. -/
def read (bytes : List UInt8) : Reading :=
  match bytes with
  | first :: second :: rest =>
    let frame : Frame := {
      final := 128 ≤ first.toNat
      reserved := first.toNat / 16 % 8
      opcode := first.toNat % 16
      masked := 128 ≤ second.toNat }
    let size := second.toNat % 128
    let extended := if size = 126 then 2 else if size = 127 then 8 else 0
    if rest.length < extended then .incomplete
    else if extended = 0 then readPayload frame size rest
    else readPayload frame (ofBigEndian (rest.take extended)) (rest.drop extended)
  | _ => .incomplete

end Frame

/-- A message that has begun, and whether it is a text. -/
structure Fragments where
  isText : Bool
  bytes : List UInt8
  deriving DecidableEq, Repr

/-- What a frame leads to. -/
inductive Receipt where
  | nothing (fragments : Option Fragments)
  | message (payload : String)
  | closed
  | failed
  deriving DecidableEq, Repr

namespace Fragments

/-- The message of complete fragments. Bytes that are no text are taken as far as they are one. -/
def complete (fragments : Fragments) : Receipt :=
  if fragments.isText then
    match Utf8.decode? fragments.bytes with
    | some text => .message (String.ofList text)
    | none => .failed
  else .message (String.ofList (Utf8.decodeLossy fragments.bytes))

/-- Takes up the payload of one more frame. -/
def extend (fragments : Fragments) (frame : Frame) : Receipt :=
  let next : Fragments := { fragments with bytes := fragments.bytes ++ frame.payload }
  if next.isText && !Utf8.isBeginning none next.bytes then .failed
  else if frame.final then next.complete
  else .nothing (some next)

end Fragments

/-- The largest payload of a control frame. -/
def controlLimit : Nat := 125

/-- A reason for closing begins with a code, and goes on with a text. -/
def isCloseReason (payload : List UInt8) : Bool :=
  payload.isEmpty || (2 ≤ payload.length && (Utf8.decode? (payload.drop 2)).isSome)

/-- Receives a frame from a server. -/
def receiveFrame (fragments : Option Fragments) (frame : Frame) : Receipt :=
  if frame.reserved ≠ 0 ∨ frame.masked then .failed
  else if frame.isControl then
    if !frame.final ∨ controlLimit < frame.payload.length then .failed
    else if frame.opcode = Frame.closing then
      if isCloseReason frame.payload then .closed else .failed
    else .nothing fragments
  else
    match fragments with
    | some fragments =>
      if frame.opcode = Frame.continuation then fragments.extend frame else .failed
    | none =>
      if frame.opcode = Frame.continuation then .failed
      else ({ isText := frame.opcode = Frame.textual, bytes := [] } : Fragments).extend frame

/-- The frame that a client sends back. -/
def Frame.answer? (frame : Frame) : Option Frame :=
  if frame.opcode = Frame.ping then some { frame with opcode := Frame.pong }
  else if frame.opcode = Frame.closing then some { opcode := Frame.closing }
  else none

/-- What has arrived and has not been delivered yet. -/
structure Inbox where
  fragments : Option Fragments := none
  bytes : List UInt8 := []
  deriving DecidableEq, Repr

namespace Inbox

/-- Takes up the frame that has arrived, if it is whole: what it leads to, and what is sent back. -/
def step (inbox : Inbox) : Option (Receipt × Option Frame × Inbox) :=
  match Frame.read inbox.bytes with
  | .incomplete => none
  | .malformed => some (.failed, none, inbox)
  | .complete frame bytes =>
    match receiveFrame inbox.fragments frame with
    | .failed => some (.failed, none, { bytes })
    | .nothing fragments => some (.nothing fragments, frame.answer?, { fragments, bytes })
    | receipt => some (receipt, frame.answer?, { bytes })

end Inbox

/-- What a connection delivers to its reader. -/
inductive Delivery where
  | message (payload : String)
  | closed
  | failed
  deriving DecidableEq, Repr

/-- What an inbox delivers. Nothing is read after an end or a failure. -/
def deliverFrom : Nat → Inbox → List Delivery
  | 0, _ => []
  | fuel + 1, inbox =>
    match inbox.step with
    | none => []
    | some (.failed, _, _) => [.failed]
    | some (.closed, _, _) => [.closed]
    | some (.message payload, _, inbox) => .message payload :: deliverFrom fuel inbox
    | some (.nothing _, _, inbox) => deliverFrom fuel inbox

/-- What the bytes that have arrived deliver. Every frame takes up a byte at least. -/
def deliver (bytes : List UInt8) : List Delivery := deliverFrom (bytes.length + 1) { bytes }

/-- What bytes deliver before the connection is lost: an end without a close frame is a failure. -/
def deliverUntilLost (bytes : List UInt8) : List Delivery :=
  let deliveries := deliver bytes
  match deliveries.getLast? with
  | some .closed | some .failed => deliveries
  | _ => deliveries ++ [.failed]

/-- A served connection that delivers as bytes do, and then stays as it is. -/
def Script.ofBytes (bytes : List UInt8) : Script :=
  let deliveries := deliver bytes
  let events := deliveries.filterMap fun
    | .message payload => some (.message payload)
    | .failed => some (.fail (.read "malformed frame"))
    | .closed => none
  { outcome := .serve events (!deliveries.contains .closed) }

end ProxyWatch.Stream
