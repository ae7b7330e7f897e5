import ProxyWatch.Health.Presentation

/-! When endpoints are checked, in milliseconds. -/
namespace ProxyWatch.Health

structure Timing where
  /-- Between two checks of a polling task. -/
  interval : Nat := 30000
  /-- How long a probe may take. -/
  probeTimeout : Nat := 5000
  /-- How long a check may be joined by another of the same endpoints. -/
  dedupWindow : Nat := 2000
  /-- How long a change of status is shown. -/
  transitionWindow : Nat := defaultWindow
  deriving DecidableEq, Repr

end ProxyWatch.Health
