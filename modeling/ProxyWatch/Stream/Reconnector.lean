/-! The decision whether to connect again. -/
namespace ProxyWatch.Stream

/-- How long to wait before a retry, in milliseconds, and how many retries to make in a row. -/
structure Policy where
  interval : Nat := 3000
  maxAttempts : Nat := 10
  deriving DecidableEq, Repr

inductive Decision where
  | retry (attempt delay : Nat)
  | giveUp (attempts : Nat)
  deriving DecidableEq, Repr

structure Reconnector where
  policy : Policy
  retries : Nat := 0
  deriving DecidableEq, Repr

namespace Reconnector

/-- An open connection restores the whole budget. -/
def opened (r : Reconnector) : Reconnector := { r with retries := 0 }

/-- Decides after a failed attempt or a lost connection. -/
def failed (r : Reconnector) : Decision × Reconnector :=
  if r.policy.maxAttempts ≤ r.retries then (.giveUp r.retries, r)
  else (.retry (r.retries + 1) r.policy.interval, { r with retries := r.retries + 1 })

end Reconnector
end ProxyWatch.Stream
