import ProxyWatch.Api.Exchange

/-! Asking an endpoint whether it is there. -/
namespace ProxyWatch.Health

inductive ProbeError where
  | status (code : Nat)
  | transport (detail : String)
  | timeout
  deriving DecidableEq, Repr

def ProbeError.message : ProbeError → String
  | status code => s!"Endpoint returned status {code}"
  | transport detail => s!"Probe failed: {detail}"
  | timeout => "Probe timed out"

/-- What a probe asks for: the configuration below the endpoint's path. -/
def probeRequest (endpoint : Url) : Api.Request where
  method := .get
  url :=
    let bare := endpoint.withoutQuery
    (bare.extend? ["api", "config"]).getD bare

/-- Any success means that the endpoint is there; its body does not matter. -/
def probeResult : Api.Reply → Except ProbeError Unit
  | .answered status _ | .cutShort status =>
    if Api.isSuccess status then .ok () else .error (.status status)
  | .dropped => .error (.transport "connection closed")
  | .refused => .error (.transport "connection refused")
  | .timedOut => .error .timeout
  | .notSendable => .error (.transport "request cannot be sent")

end ProxyWatch.Health
