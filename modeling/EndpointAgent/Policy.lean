import EndpointAgent.Config
import EndpointAgent.Json.Encode

/-!
# Policy engine

`internal/policy` (`Engine`): the policy the server last sent, or `defaultPolicy` until a
`Refresh` succeeds. `IsCollectorEnabled` and `GetCollectorInterval` read the current policy's
collector map, a missing collector being disabled and a non-positive interval falling back to
`cfg.CollectionInterval`. A failed `Refresh` keeps the current policy.
-/

set_option autoImplicit false

namespace EndpointAgent

/-- `policy.CollectorPolicy`. -/
structure CollectorPolicy where
  enabled : Bool
  /-- `time.Duration`, 0 when omitted. -/
  interval : Int
  /-- `map[string]interface{}`, as `json.Decode` fills it. -/
  options : String → Option Json.Value

/-- `policy.Policy`, the fields the engine and its callers read. A Go map is read by key only. -/
structure Policy where
  version : String
  collectors : String → Option CollectorPolicy

/-- `defaultPolicy`. -/
def defaultPolicy : Policy where
  version := "1.0.0"
  collectors
    | "system" => some ⟨true, 0, fun _ => none⟩
    | "cpu" => some ⟨true, 60 * second, fun _ => none⟩
    | "memory" => some ⟨true, 60 * second, fun _ => none⟩
    | "disk" => some ⟨true, 300 * second, fun _ => none⟩
    | "network" => some ⟨true, 60 * second, fun key => if key = "collect_mac" then some (.bool false) else none⟩
    | _ => none

/-- The design's privacy switch: the network collector's `collect_mac` option is `true`. -/
def Policy.collectsMAC (policy : Policy) : Bool :=
  match policy.collectors "network" with
  | some network =>
    match network.options "collect_mac" with
    | some (.bool true) => true
    | _ => false
  | none => false

/-- `policy.Engine`: the configuration it was made with and the current policy. -/
structure Engine where
  cfg : Config
  current : Policy

/-- How the request of `Refresh` ends. -/
inductive PolicyFetch where
  /-- `identity.GetHTTPClient` fails. -/
  | clientFails (err : GoError)
  | fetchFails (err : GoError)
  /-- The server answered with this status and body; `decoded` is what `json.Decoder.Decode`
  makes of the body. -/
  | answered (status : Nat) (body : String) (decoded : Except GoError Policy)

namespace Engine

/-- `NewEngine`. -/
def new (cfg : Config) : Engine := ⟨cfg, defaultPolicy⟩

/-- `Refresh`: a decoded answer 200 replaces the current policy; anything else keeps it. -/
def refresh (e : Engine) : PolicyFetch → Except GoError Unit × Engine
  | .clientFails err => (.error (err.wrap "failed to create HTTP client"), e)
  | .fetchFails err => (.error (err.wrap "failed to fetch policy"), e)
  | .answered status body decoded =>
    if status ≠ 200 then
      (.error (GoError.new ("policy fetch failed with status " ++ toString status ++ ": " ++ body)), e)
    else
      match decoded with
      | .error err => (.error (err.wrap "failed to decode policy"), e)
      | .ok policy => (.ok (), { e with current := policy })

/-- `Get`. -/
def get (e : Engine) : Policy := e.current

/-- `IsCollectorEnabled`: a collector the policy does not name is disabled. -/
def isCollectorEnabled (e : Engine) (name : String) : Bool :=
  match e.current.collectors name with
  | some collectorPolicy => collectorPolicy.enabled
  | none => false

/-- `GetCollectorInterval`: the policy's interval when it is positive, else the configured one. -/
def getCollectorInterval (e : Engine) (name : String) : Int :=
  match e.current.collectors name with
  | some collectorPolicy => if collectorPolicy.interval > 0 then collectorPolicy.interval else e.cfg.collectionInterval
  | none => e.cfg.collectionInterval

@[simp] theorem new_current (cfg : Config) : (new cfg).current = defaultPolicy := rfl

@[simp] theorem refresh_cfg (e : Engine) (fetch : PolicyFetch) : (e.refresh fetch).2.cfg = e.cfg := by
  cases fetch with
  | answered status body decoded => by_cases ok : status = 200 <;> cases decoded <;> simp [refresh, ok]
  | _ => rfl

end Engine

end EndpointAgent
