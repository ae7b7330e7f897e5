import ProxyWatch.Health.Timing
import ProxyWatch.Log.Buffer
import ProxyWatch.Settings.Value
import ProxyWatch.Stream.Reconnector

/-! The settings, their defaults, and the fields that they are read from. Times are in milliseconds. -/
namespace ProxyWatch

structure Settings where
  endpoint : Option String := none
  reconnectInterval : Nat := 3000
  reconnectAttempts : Nat := 10
  healthInterval : Nat := 30000
  probeTimeout : Nat := 5000
  dedupWindow : Nat := 2000
  transitionWindow : Nat := 2000
  requestTimeout : Nat := 10000
  logCapacity : Nat := EventBuffer.defaultCapacity
  storeDirectory : String := ".rdwatch"
  deriving DecidableEq, Repr

namespace Settings

def reconnectPolicy (settings : Settings) : Stream.Policy :=
  ⟨settings.reconnectInterval, settings.reconnectAttempts⟩

def timing (settings : Settings) : Health.Timing :=
  ⟨settings.healthInterval, settings.probeTimeout, settings.dedupWindow, settings.transitionWindow⟩

/-- The most attempts that can be set. -/
def attemptLimit : Nat := Nat.pow 2 32 - 1

/-- Sets a field by its name; none if the value does not fit it. Other names set nothing. -/
def set? (settings : Settings) (name : String) (value : SettingValue) : Option Settings :=
  match name with
  | "endpoint" => value.optionalText?.map ({ settings with endpoint := · })
  | "reconnect_interval_ms" => value.counter?.map ({ settings with reconnectInterval := · })
  | "reconnect_attempts" =>
    (value.counterUpTo? attemptLimit).map ({ settings with reconnectAttempts := · })
  | "health_interval_ms" => value.counter?.map ({ settings with healthInterval := · })
  | "probe_timeout_ms" => value.counter?.map ({ settings with probeTimeout := · })
  | "dedup_window_ms" => value.counter?.map ({ settings with dedupWindow := · })
  | "transition_window_ms" => value.counter?.map ({ settings with transitionWindow := · })
  | "request_timeout_ms" => value.counter?.map ({ settings with requestTimeout := · })
  | "log_capacity" => value.counter?.map ({ settings with logCapacity := · })
  | "store_dir" => value.text?.map ({ settings with storeDirectory := · })
  | _ => some settings

def setAll? (settings : Settings) : List (String × SettingValue) → Option Settings
  | [] => some settings
  | (name, value) :: rest => do setAll? (← settings.set? name value) rest

end Settings
end ProxyWatch
