import EndpointAgent.Config.Persist

/-!
# The periodic timers of a running agent

Once `run` reaches its loop, it has started these tickers:
- the health monitor's `time.NewTicker(cfg.HeartbeatInterval)`;
- one `time.NewTicker(interval + jitter)` per collector in `startCollectorJob`, where `interval`
  is `cfg.CollectionInterval` and `jitter` is a sample within ten percent of it;
- the loop's own 5-minute ticker.

`NewTicker` panics on a period that is not positive, and `interval + jitter` is an `int64`
sum, which wraps. `ValidateRuntime` bounds the collection interval from below only and never
looks at the heartbeat interval. Every ticker is fine exactly when the heartbeat interval is
positive and no sum overflows.
-/

set_option autoImplicit false

namespace EndpointAgent

/-- Two's-complement `int64` arithmetic: the value of `x` in `[-2^63, 2^63)` modulo `2^64`. -/
def int64Wrap (x : Int) : Int := (x + 2 ^ 63) % 2 ^ 64 - 2 ^ 63

/-- `time.NewTicker(d)`: a ticker of period `d`, or the panic of a period that is not positive. -/
def newTicker (d : Int) : Except String Int :=
  if d ≤ 0 then .error "non-positive interval for NewTicker" else .ok d

/-- A jitter sample of `startCollectorJob` for an interval: within ten percent of it. -/
def JitterSample (interval jitter : Int) : Prop := 10 * |jitter| ≤ interval

instance (interval jitter : Int) : Decidable (JitterSample interval jitter) := inferInstanceAs (Decidable (_ ≤ _))

namespace Config

/-- The health monitor's ticker (`Monitor.Start`). -/
def heartbeatTicker (c : Config) : Except String Int := newTicker c.heartbeatInterval

/-- `startCollectorJob`'s `actualInterval := interval + jitter`, an `int64` sum. -/
def actualInterval (c : Config) (jitter : Int) : Int := int64Wrap (c.collectionInterval + jitter)

/-- A collector job's ticker. -/
def collectorTicker (c : Config) (jitter : Int) : Except String Int := newTicker (c.actualInterval jitter)

/-- The tickers `run` has started when it reaches its loop, one jitter sample per collector. -/
def runTickers (c : Config) (jitters : List Int) : List (Except String Int) :=
  c.heartbeatTicker :: jitters.map c.collectorTicker ++ [newTicker (5 * minute)]

end Config

private theorem newTicker_isOk (d : Int) : (newTicker d).isOk = true ↔ 0 < d := by
  unfold newTicker
  split <;> simp [Except.isOk, Except.toBool] <;> omega

/-- Inside the `int64` range the sum does not wrap. -/
private theorem int64Wrap_of_inRange {x : Int} (low : -2 ^ 63 ≤ x) (high : x < 2 ^ 63) : int64Wrap x = x := by
  unfold int64Wrap
  rw [Int.emod_eq_of_lt (by omega) (by omega)]
  omega

/-- Past the top of the range, up to twice it, the sum wraps to a negative value. -/
private theorem int64Wrap_neg_of_overflow {x : Int} (low : 2 ^ 63 ≤ x) (high : x < 2 ^ 64) : int64Wrap x < 0 := by
  unfold int64Wrap
  have wrapped : (x + 2 ^ 63) % 2 ^ 64 = x + 2 ^ 63 - 2 ^ 64 := by
    rw [Int.emod_def, show (x + 2 ^ 63) / 2 ^ 64 = 1 by omega]
    ring
  omega

namespace Config

/-- For an interval `ValidateRuntime` accepts and a jitter sample within ten percent of it, the
collector's ticker starts exactly when the `int64` sum does not overflow. -/
private theorem collectorTicker_isOk {c : Config} (valid : c.RuntimeValid) (inRange : c.collectionInterval < 2 ^ 63)
    {jitter : Int} (sample : JitterSample c.collectionInterval jitter) :
    (c.collectorTicker jitter).isOk = true ↔ c.collectionInterval + jitter < 2 ^ 63 := by
  have floor := valid.collectionInterval
  unfold JitterSample at sample
  unfold second at floor
  rw [collectorTicker, newTicker_isOk, actualInterval]
  have upper := le_abs_self jitter
  have lower := neg_abs_le jitter
  constructor
  · intro positive
    by_contra overflow
    have := int64Wrap_neg_of_overflow (x := c.collectionInterval + jitter) (by omega) (by omega)
    omega
  · intro fits
    rw [int64Wrap_of_inRange (by omega) fits]
    omega

/-- For a configuration `ValidateRuntime` accepts and jitter samples within ten percent of its
interval, every ticker of the running agent starts exactly when the heartbeat interval is
positive and no collector's `int64` sum overflows. -/
theorem runTickers_isOk {c : Config} (valid : c.RuntimeValid) (inRange : c.collectionInterval < 2 ^ 63)
    {jitters : List Int} (samples : ∀ jitter ∈ jitters, JitterSample c.collectionInterval jitter) :
    (∀ ticker ∈ c.runTickers jitters, ticker.isOk = true) ↔
      0 < c.heartbeatInterval ∧ ∀ jitter ∈ jitters, c.collectionInterval + jitter < 2 ^ 63 := by
  have loop : (newTicker (5 * minute)).isOk = true := (newTicker_isOk _).mpr (by decide)
  simp only [runTickers, List.forall_mem_cons, List.forall_mem_append, List.forall_mem_map,
    List.not_mem_nil, false_implies, implies_true, heartbeatTicker, newTicker_isOk, loop, true_and, and_true]
  exact and_congr_right fun _ => forall₂_congr fun jitter member =>
    collectorTicker_isOk valid inRange (samples jitter member)

/-- A configuration as `Load` reads it from a file that gives only the fields `ValidateRuntime`
checks. -/
def loadedConfig : Config :=
  { Config.zero with
    bootstrapped := true
    orgID := "org-1"
    agentID := "agent-1"
    apiBaseURL := "https://api.unitechio.space"
    collectionInterval := 60 * second
    batchSize := 100 }

/-- A configuration with a 30-second heartbeat and a one-minute collection interval starts
every ticker for jitter samples at both ends of the ten percent. -/
theorem runTickers_isOk_heartbeat :
    (({ loadedConfig with heartbeatInterval := 30 * second } : Config).runTickers
      [6 * second, -(6 * second)]).all Except.isOk = true := by
  have valid := (validateRuntime_eq_ok { loadedConfig with heartbeatInterval := 30 * second }).mp rfl
  refine List.all_eq_true.mpr ((runTickers_isOk valid (by decide) ?_).mpr ⟨by decide, ?_⟩) <;>
    simp only [List.forall_mem_cons, List.not_mem_nil, false_implies, implies_true, and_true] <;> decide

/-- `ValidateRuntime` lets through tickers that panic. With any configuration it accepts, it
also accepts the same configuration with no heartbeat interval, as a file without
`heartbeat_interval` loads, and its monitor's ticker panics. It also accepts the largest `int64`
collection interval, and a collector's ticker with a +10% jitter sample then overflows and
panics. -/
theorem validated_tickers_panic {c : Config} (valid : c.validateRuntime = .ok ()) :
    ({ c with heartbeatInterval := 0 } : Config).validateRuntime = .ok () ∧
      ({ c with heartbeatInterval := 0 } : Config).heartbeatTicker = .error "non-positive interval for NewTicker" ∧
    ({ c with collectionInterval := 2 ^ 63 - 1 } : Config).validateRuntime = .ok () ∧
      JitterSample (2 ^ 63 - 1) ((2 ^ 63 - 1) / 10) ∧
      ({ c with collectionInterval := 2 ^ 63 - 1 } : Config).collectorTicker ((2 ^ 63 - 1) / 10) =
        .error "non-positive interval for NewTicker" := by
  obtain ⟨bootstrapped, org, agent, api, floor, size⟩ := (validateRuntime_eq_ok c).mp valid
  refine ⟨(validateRuntime_eq_ok _).mpr ⟨bootstrapped, org, agent, api, floor, size⟩, rfl,
    (validateRuntime_eq_ok _).mpr ⟨bootstrapped, org, agent, api, (by decide : 10 * second ≤ (2 : Int) ^ 63 - 1),
      size⟩, by decide, rfl⟩

theorem validated_tickers_panic_loaded :
    loadedConfig.validateRuntime = .ok () ∧ loadedConfig.heartbeatInterval = 0 ∧
      ({ loadedConfig with heartbeatInterval := 0 } : Config).heartbeatTicker =
        .error "non-positive interval for NewTicker" ∧
      ({ loadedConfig with collectionInterval := 2 ^ 63 - 1 } : Config).collectorTicker ((2 ^ 63 - 1) / 10) =
        .error "non-positive interval for NewTicker" :=
  have valid : loadedConfig.validateRuntime = .ok () := rfl
  have panics := validated_tickers_panic valid
  ⟨valid, rfl, panics.2.1, panics.2.2.2.2⟩

end Config

end EndpointAgent
