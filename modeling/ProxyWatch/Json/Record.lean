import ProxyWatch.Json.Source

/-! Records written as JSON: an object with named members, or an array of the members in their
declared order. -/
namespace ProxyWatch.Json.Source

/-- The names of an object's members, if all are proper texts. -/
def names? (members : List (Option String × Source)) : Option (List String) :=
  members.mapM (·.1)

/-- What a tree gives for each declared member of a record. Other members are ignored, a repeated one
is an error; an array may end early but not go on. -/
def slots? (declared : List String) : Source → Option (List (Option Source))
  | .array items =>
    if items.length ≤ declared.length then
      some (items.map some ++ List.replicate (declared.length - items.length) none)
    else none
  | .object members => do
    let names ← names? members
    if declared.all fun name => names.count name ≤ 1 then
      pure (declared.map fun name => (members.find? (·.1 == some name)).map (·.2))
    else none
  | _ => none

def text? : Source → Option String
  | .string text => text
  | _ => none

def bool? : Source → Option Bool
  | .bool b => some b
  | _ => none

/-- A counter: a whole number of 64 bits without sign. -/
def counter? : Source → Option Nat
  | .number (some (.integer n)) => if 0 ≤ n ∧ n ≤ counterLimit then some n.toNat else none
  | _ => none

def texts? : Source → Option (List String)
  | .array items => items.mapM text?
  | _ => none

/-- The members of an object as a table. -/
def table? (limit : Nat) (source : Source) : Option Members :=
  match source with
  | .object _ => (source.value? limit).bind Json.members?
  | _ => none

/-- A member that may be missing or null. -/
def optional? (read : Source → Option α) : Option Source → Option (Option α)
  | none => some none
  | some .null => some none
  | some source => (read source).map some

/-- A member with a default, which may be missing. -/
def defaulting? (default : α) (read : Source → Option α) : Option Source → Option α
  | none => some default
  | some source => read source

end ProxyWatch.Json.Source
