import ProxyWatch.Document.Pointer
import ProxyWatch.Json.Record

/-! Patches: lists of operations that change a document one after the other. The first operation that
fails rejects the whole patch. -/
namespace ProxyWatch
open Json (Source)

inductive Operation where
  | add (path : Pointer) (value : Json)
  | remove (path : Pointer)
  | replace (path : Pointer) (value : Json)
  | move (source path : Pointer)
  | copy (source path : Pointer)
  | test (path : Pointer) (value : Json)
  deriving Repr

abbrev Patch := List Operation

namespace Operation

inductive Failure where
  | invalidPath
  | invalidSource
  | moveIntoItself
  | mismatch
  deriving DecidableEq, Repr

def Failure.message : Failure → String
  | invalidPath => "path is invalid"
  | invalidSource => "\"from\" path is invalid"
  | moveIntoItself => "cannot move the value inside itself"
  | mismatch => "value did not match"

/-- The place that the operation changes or tests. -/
def path : Operation → Pointer
  | add path _ | remove path | replace path _ | move _ path | copy _ path | test path _ => path

def orFail (failure : Failure) : Option α → Except Failure α
  | some value => .ok value
  | none => .error failure

def apply (document : Json) : Operation → Except Failure Json
  | add path value => orFail .invalidPath (path.insert? value document)
  | remove path => orFail .invalidPath (path.remove? document)
  | replace path value => orFail .invalidPath (path.replace? value document)
  | move source path => do
    if path.isInside source then throw .moveIntoItself
    let rest ← orFail .invalidSource (source.remove? document)
    let value ← orFail .invalidSource (source.get? document)
    orFail .invalidPath (path.insert? value rest)
  | copy source path => do
    let value ← orFail .invalidSource (source.get? document)
    orFail .invalidPath (path.insert? value document)
  | test path expected => do
    let found ← orFail .invalidPath (path.get? document)
    if found.same expected then pure document else throw .mismatch

def pointer? (source : Option Source) : Option Pointer := do Pointer.parse? (← (← source).text?)

/-- The name of the operation that a tree writes. -/
def name? : Source → Option String
  | .object members => do (← members.find? (·.1 == some "op")).2.text?
  | .array (first :: _) => first.text?
  | _ => none

/-- Reads an operation whose parts nest at most `limit` deep. All members must have values, also those
that the operation does not use. -/
def ofSource? (limit : Nat) (source : Source) : Option Operation := do
  let _ ← source.value? limit
  let value? (slot : Option Source) : Option Json := do (← slot).value? limit
  match ← name? source with
  | "add" =>
    let [_, path, value] ← source.slots? ["op", "path", "value"] | none
    pure (add (← pointer? path) (← value? value))
  | "remove" =>
    let [_, path] ← source.slots? ["op", "path"] | none
    pure (remove (← pointer? path))
  | "replace" =>
    let [_, path, value] ← source.slots? ["op", "path", "value"] | none
    pure (replace (← pointer? path) (← value? value))
  | "move" =>
    let [_, from_, path] ← source.slots? ["op", "from", "path"] | none
    pure (move (← pointer? from_) (← pointer? path))
  | "copy" =>
    let [_, from_, path] ← source.slots? ["op", "from", "path"] | none
    pure (copy (← pointer? from_) (← pointer? path))
  | "test" =>
    let [_, path, value] ← source.slots? ["op", "path", "value"] | none
    pure (test (← pointer? path) (← value? value))
  | _ => none

def toJson : Operation → Json
  | add path value =>
    .object [("op", .string "add"), ("path", .string path.toText), ("value", value)]
  | remove path => .object [("op", .string "remove"), ("path", .string path.toText)]
  | replace path value =>
    .object [("op", .string "replace"), ("path", .string path.toText), ("value", value)]
  | move source path =>
    .object [("op", .string "move"), ("from", .string source.toText), ("path", .string path.toText)]
  | copy source path =>
    .object [("op", .string "copy"), ("from", .string source.toText), ("path", .string path.toText)]
  | test path value =>
    .object [("op", .string "test"), ("path", .string path.toText), ("value", value)]

end Operation

namespace Patch

/-- Which operation of a patch failed, and why. -/
structure Rejection where
  index : Nat
  path : Pointer
  failure : Operation.Failure
  deriving DecidableEq, Repr

def Rejection.message (r : Rejection) : String :=
  s!"Patch rejected: operation '/{r.index}' failed at path '{r.path.toText}': {r.failure.message}"

def applyFrom (index : Nat) (document : Json) : Patch → Except Rejection Json
  | [] => .ok document
  | operation :: rest =>
    match operation.apply document with
    | .ok next => applyFrom (index + 1) next rest
    | .error failure => .error ⟨index, operation.path, failure⟩

def apply (patch : Patch) (document : Json) : Except Rejection Json := applyFrom 0 document patch

/-- Reads a list of operations that nests at most `limit` deep. -/
def ofSource? (limit : Nat) : Source → Option Patch
  | .array operations => operations.mapM (Operation.ofSource? (limit - 1))
  | _ => none

def toJson (patch : Patch) : Json := .array (patch.map Operation.toJson)

end Patch
end ProxyWatch
