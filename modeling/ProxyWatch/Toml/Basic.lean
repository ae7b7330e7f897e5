import ProxyWatch.Number.Floating

/-! TOML documents, and how their statements build them up.

A table remembers how it came about: by a header of its own, on the way to another header, from a
dotted key, or as a value. Headers and dotted keys may go on only with some of these. -/
namespace ProxyWatch

inductive Toml.Origin where
  | header
  | implied
  | dotted
  | inline
  deriving DecidableEq, Repr

inductive Toml where
  | string (value : String)
  | integer (value : Int)
  | floating (value : Number.Floating)
  | bool (value : Bool)
  | timestamp (value : String)
  | array (items : List Toml)
  | tables (items : List (List (String × Toml)))
  | table (origin : Toml.Origin) (members : List (String × Toml))
  deriving Repr, Inhabited

namespace Toml

abbrev Members := List (String × Toml)

namespace Members

def get? : Members → String → Option Toml
  | [], _ => none
  | (key, value) :: rest, wanted => if key = wanted then some value else get? rest wanted

/-- Replaces a present member, and puts a new one at the end. -/
def put : Members → String → Toml → Members
  | [], key, value => [(key, value)]
  | (head, old) :: rest, key, value =>
    if head = key then (key, value) :: rest else (head, old) :: put rest key value

/-- Defines a dotted key in a table. Tables on its way must have come from dotted keys or headers
below them, and the last of them from a dotted key; nothing is defined twice. -/
def define (members : Members) : List String → Toml → Option Members
  | [], _ => none
  | [key], value => if (members.get? key).isNone then some (members.put key value) else none
  | key :: next :: path, value => do
    let (origin, inner) ← match members.get? key with
      | none => some (Origin.dotted, [])
      | some (.table .dotted inner) => some (Origin.dotted, inner)
      | some (.table .implied inner) => if path.isEmpty then none else some (Origin.implied, inner)
      | _ => none
    pure (members.put key (.table origin (← define inner (next :: path) value)))

/-- Changes the last element of a list. -/
def changeLast (change : Members → Option Members) : List Members → Option (List Members)
  | [] => none
  | [last] => (change last).map ([·])
  | first :: second :: rest => (changeLast change (second :: rest)).map (first :: ·)

/-- Goes to the table of a header, making the tables on its way. The last element of an array of
tables stands for the array. -/
def descend (change : Members → Option Members) : Members → List String → Option Members
  | members, [] => change members
  | members, key :: path => do
    let value ← match members.get? key with
      | none => (descend change [] path).map (Toml.table .implied)
      | some (.table .inline _) => none
      | some (.table origin inner) => (descend change inner path).map (Toml.table origin)
      | some (.tables items) => (changeLast (descend change · path) items).map Toml.tables
      | some _ => none
    pure (members.put key value)

/-- Opens a table by its header, which it may have only once. -/
def openTable (members : Members) (key : String) : Option Members :=
  match members.get? key with
  | none => some (members.put key (.table .header []))
  | some (.table .implied inner) => some (members.put key (.table .header inner))
  | _ => none

/-- Opens a new element of an array of tables. -/
def openElement (members : Members) (key : String) : Option Members :=
  match members.get? key with
  | none => some (members.put key (.tables [[]]))
  | some (.tables items) => some (members.put key (.tables (items ++ [[]])))
  | _ => none

/-- Does something with the last key of a header in the table before it. -/
def atHeader (act : Members → String → Option Members) (members : Members) (path : List String) :
    Option Members :=
  match path.getLast? with
  | none => none
  | some key => descend (act · key) members path.dropLast

end Members

/-- A line of a document. -/
inductive Statement where
  | header (path : List String)
  | element (path : List String)
  | pair (path : List String) (value : Toml)
  deriving Repr, Inhabited

/-- The root table that statements define, from the header that they stand under. -/
def build (root : Members) (current : List String) : List Statement → Option Members
  | [] => some root
  | .header path :: rest => do build (← root.atHeader Members.openTable path) path rest
  | .element path :: rest => do build (← root.atHeader Members.openElement path) path rest
  | .pair path value :: rest => do
    build (← Members.descend (Members.define · path value) root current) current rest

end Toml
end ProxyWatch
