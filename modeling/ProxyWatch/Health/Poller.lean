import ProxyWatch.Health.Timing

/-! The poller: which checks it starts, and what it makes of their results. -/
namespace ProxyWatch.Health

/-- The check started last: its number, its endpoints in order and without repetition, and the clock when it was
started. The numbers have no bound here; 2^64 checks are out of reach. -/
structure Batch where
  id : Nat
  urls : List String
  started : Nat
  deriving DecidableEq, Repr

/-- An endpoint went online or offline. -/
structure Change where
  url : String
  isOnline : Bool
  deriving DecidableEq, Repr

/-- Changes are kept latest first. -/
structure Poller where
  timing : Timing := {}
  statuses : Dictionary Bool := []
  transitions : Dictionary Transition := []
  batch : Option Batch := none
  nextId : Nat := 0
  validating : Bool := false
  changes : List Change := []
  deriving Repr

namespace Poller

/-- The endpoints of a request as a set. -/
def keyOf (urls : List String) : List String :=
  (Dictionary.ofList (urls.map fun url => (url, ()))).keys

/-- A request for the endpoints of the last batch joins it while that is fresh. -/
def isJoined (poller : Poller) (urls : List String) (now : Nat) : Bool :=
  match poller.batch with
  | none => false
  | some batch => batch.urls == keyOf urls && now - batch.started < poller.timing.dedupWindow

/-- The poller with a new batch. -/
def startBatch (poller : Poller) (urls : List String) (now : Nat) : Poller :=
  { poller with
    batch := some ⟨poller.nextId, keyOf urls, now⟩
    nextId := poller.nextId + 1
    validating := true }

/-- Asks for a check at some clock time. Answers the number of the batch that serves the request. -/
def request (poller : Poller) (urls : List String) (now : Nat) : Nat × Poller :=
  match poller.batch with
  | some batch =>
    if poller.isJoined urls now then (batch.id, poller)
    else (poller.nextId, poller.startBatch urls now)
  | none => (poller.nextId, poller.startBatch urls now)

/-- The endpoints whose status in a result is another than before. Endpoints that are new have not
changed. -/
def flips (statuses result : Dictionary Bool) : List Change :=
  result.filterMap fun (url, isOnline) =>
    match statuses.get? url with
    | some previous => if previous = isOnline then none else some ⟨url, isOnline⟩
    | none => none

/-- Takes up the result of a batch at some clock time, unless a newer batch has been started. -/
def complete (poller : Poller) (id : Nat) (result : Dictionary Bool) (now : Nat) : Poller :=
  if poller.nextId ≠ id + 1 then poller
  else
    let flipped := flips poller.statuses result
    let transitions := flipped.foldl
      (fun table change => Dictionary.insert table change.url ⟨!change.isOnline, now⟩) poller.transitions
    { poller with
      validating := false
      statuses := result
      transitions := transitions.filter fun (_, t) => t.isRecent now poller.timing.transitionWindow
      changes := flipped.reverse ++ poller.changes }

/-- How many changes are kept for a subscriber that has not read them. -/
def changeCapacity : Nat := 64

/-- How many of the changes that a subscriber has not read it has lost, the oldest first. -/
def lost (unread : Nat) : Nat := unread - changeCapacity

def board (poller : Poller) : Board where
  statuses := poller.statuses
  transitions := poller.transitions
  validating := poller.validating
  window := poller.timing.transitionWindow

def classify (poller : Poller) (url : String) (now : Nat) : Presentation :=
  poller.board.classify url now

end Poller
end ProxyWatch.Health
