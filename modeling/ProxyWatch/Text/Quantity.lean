import ProxyWatch.Number.Double

/-! Byte counts, rates and durations for people. -/
namespace ProxyWatch.Quantity
open Number

/-- The units above the byte, each 1024 of the one before. -/
def units : List String := ["KiB", "MiB", "GiB", "TiB", "PiB"]

/-- Divides by 1024 while the value is at least that and there is a larger unit. -/
def scaleTo (num den : Nat) : String → List String → Nat × String
  | unit, [] => (den, unit)
  | unit, larger :: rest =>
    if 1024 * den ≤ num then scaleTo num (1024 * den) larger rest else (den, unit)

/-- Counts from 1024 on are first rounded to 53 bits and then shown with two decimals. -/
def bytes (count : Nat) : String :=
  if count < 1024 then s!"{count} B"
  else
    match Double.ofNat? count with
    | none => ""
    | some value =>
      let (num, den) := value.magnitude
      let (den, unit) := scaleTo num den "B" units
      s!"{hundredths num den} {unit}"

def rate (bytesPerUpdate : Nat) : String := bytes bytesPerUpdate ++ "/s"

/-- A duration from whole seconds and nanoseconds. -/
def latency (seconds nanoseconds : Nat) : String :=
  let millis := seconds * 1000 + nanoseconds / 1000000
  if millis < 1000 then s!"{millis}ms"
  else
    let total := do
      let part ← (← Double.ofNat? nanoseconds).div? (← Double.ofNat? 1000000000)
      (← Double.ofNat? seconds).addMagnitudes? part
    match total with
    | none => ""
    | some value =>
      let (num, den) := value.magnitude
      s!"{hundredths num den}s"

end ProxyWatch.Quantity
