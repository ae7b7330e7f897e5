/-! A clock that goes only when it is told to. -/
namespace ProxyWatch.Health

/-- The time since the clock was started, in milliseconds. -/
structure Clock where
  elapsed : Nat := 0
  deriving DecidableEq, Repr

def Clock.advance (clock : Clock) (duration : Nat) : Clock := ⟨clock.elapsed + duration⟩

end ProxyWatch.Health
