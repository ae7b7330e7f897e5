import ProxyWatch.Data.Dictionary

/-! How an endpoint's health is presented. -/
namespace ProxyWatch.Health

/-- A change of status: what it was before, and when it changed, in milliseconds. -/
structure Transition where
  previous : Bool
  time : Nat
  deriving DecidableEq, Repr

def Transition.isRecent (transition : Transition) (now window : Nat) : Bool :=
  now - transition.time < window

inductive Presentation where
  | neutral
  | goingOnline
  | goingOffline
  | steadyOnline
  | steadyOffline
  deriving DecidableEq, Repr

def Presentation.label : Presentation → String
  | neutral => "checking"
  | goingOnline => "going online"
  | goingOffline => "going offline"
  | steadyOnline => "online"
  | steadyOffline => "offline"

/-- How long a change is shown, in milliseconds. -/
def defaultWindow : Nat := 2000

/-- While endpoints are being checked nothing is known; a recent change to the current status is shown
as such. -/
def classify (url : String) (isOnline : Bool) (transitions : Dictionary Transition)
    (isValidating : Bool) (now window : Nat) : Presentation :=
  if isValidating then .neutral
  else
    let steady := if isOnline then Presentation.steadyOnline else .steadyOffline
    match transitions.get? url with
    | none => steady
    | some transition =>
      if transition.isRecent now window then
        match transition.previous, isOnline with
        | false, true => .goingOnline
        | true, false => .goingOffline
        | _, _ => steady
      else steady

/-- What is known of all endpoints. -/
structure Board where
  statuses : Dictionary Bool := []
  transitions : Dictionary Transition := []
  validating : Bool := false
  window : Nat := 0
  deriving Repr

namespace Board

/-- An unknown endpoint counts as offline. -/
def classify (board : Board) (url : String) (now : Nat) : Presentation :=
  Health.classify url ((board.statuses.get? url).getD false) board.transitions board.validating now
    board.window

def classifyAll (board : Board) (now : Nat) : Dictionary Presentation :=
  board.statuses.map fun (url, _) => (url, board.classify url now)

end Board
end ProxyWatch.Health
