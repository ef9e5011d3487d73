import EndpointAgent.Scheduler
import EndpointAgent.Policy

/-!
# The policy engine beside the scheduler

`run` makes the policy engine, refreshes it once and then every five minutes, and hands it to
`scheduler.New`, which keeps it in `s.policy`. A run of the agent interleaves those refreshes
with the scheduler's events. The scheduler never reads `s.policy`. Its collectors are those of
`NewDefaultCollectors`; `startCollectorJob` gives each a ticker of `s.cfg.CollectionInterval`
plus a jitter sample, and every `runCollector` calls `Collect` whatever the current policy says.
`NewDefaultCollectors` makes the network collector with `CollectMAC: false`, and nothing sets
it afterwards.
-/

set_option autoImplicit false

namespace EndpointAgent

/-! ## The default collectors -/

/-- The collectors of `NewDefaultCollectors`, one value each. -/
def newDefaultCollectors : List Collector :=
  [⟨0, "system"⟩, ⟨1, "cpu"⟩, ⟨2, "memory"⟩, ⟨3, "disk"⟩, ⟨4, "network"⟩]

/-- `net.InterfaceStat`, the fields `NetworkCollector.Collect` reads. -/
structure InterfaceStat where
  name : String
  mtu : Int
  hardwareAddr : String
  flags : List String
  addrs : List String

/-- A value of the map `NetworkCollector.Collect` builds for an interface. -/
inductive InterfaceValue where
  | text (s : String)
  | number (n : Int)
  | texts (items : List String)

/-- `collectors.NetworkCollector`. -/
structure NetworkCollector where
  collectMAC : Bool

/-- The network collector of `NewDefaultCollectors`, the `⟨4, "network"⟩` the scheduler runs. -/
def defaultNetworkCollector : NetworkCollector := ⟨false⟩

namespace NetworkCollector

/-- The map of one interface: its name, MTU, flags and addresses, and its MAC address only
with `CollectMAC`. -/
def interfaceInfo (c : NetworkCollector) (iface : InterfaceStat) : List (String × InterfaceValue) :=
  [("name", .text iface.name), ("mtu", .number iface.mtu), ("flags", .texts iface.flags),
    ("addresses", .texts iface.addrs)] ++ if c.collectMAC then [("mac", .text iface.hardwareAddr)] else []

/-- `Collect`, given what `net.Interfaces` returns: the list it stores under `interfaces`. -/
def collect (c : NetworkCollector) (interfaces : Except GoError (List InterfaceStat)) :
    Except GoError (List (List (String × InterfaceValue))) :=
  match interfaces with
  | .error err => .error (err.wrap "failed to get network interfaces")
  | .ok interfaces => .ok (interfaces.map c.interfaceInfo)

/-- Without `CollectMAC` no interface's map has a MAC address, whatever the interfaces. -/
private theorem collect_no_mac {c : NetworkCollector} (off : c.collectMAC = false)
    {interfaces : Except GoError (List InterfaceStat)} {infos : List (List (String × InterfaceValue))}
    (collected : c.collect interfaces = .ok infos) : ∀ info ∈ infos, "mac" ∉ info.map Prod.fst := by
  cases interfaces with
  | error err => cases collected
  | ok interfaces =>
    cases collected
    intro info mem
    obtain ⟨iface, -, rfl⟩ := List.mem_map.mp mem
    rw [interfaceInfo, off, if_neg Bool.false_ne_true, List.append_nil]
    simp only [List.map_cons, List.map_nil, List.mem_cons, List.not_mem_nil, or_false]
    decide

end NetworkCollector

/-! ## Refreshes interleaved with the scheduler -/

namespace Scheduler

/-- The `Collect` call an event makes: the job's collector when the job calls `runCollector`. -/
def calls (s : Scheduler) : SchedulerEvent → List Collector
  | .collect i => (s.jobs[i]?.map Job.collector).toList
  | _ => []

/-- The `Collect` calls of a run of the scheduler alone, in order. -/
def collections (jitter : Nat → Int) (s : Scheduler) : List SchedulerEvent → List Collector
  | [] => []
  | event :: rest =>
    match s.step jitter event with
    | .next s' => s.calls event ++ s'.collections jitter rest
    | _ => []

end Scheduler

/-- The agent's policy engine and scheduler as `run` sets them up: `cfg` is the configuration
both were given. -/
structure Governed where
  cfg : Config
  engine : Engine
  scheduler : Scheduler

/-- A refresh of the policy engine, or an event of the scheduler. -/
inductive GovernedEvent where
  | refresh (fetch : PolicyFetch)
  | scheduler (event : SchedulerEvent)

/-- The scheduler's events of a run, its refreshes dropped. -/
def schedulerEvents : List GovernedEvent → List SchedulerEvent
  | [] => []
  | .refresh _ :: rest => schedulerEvents rest
  | .scheduler event :: rest => event :: schedulerEvents rest

namespace Governed

variable (jitter : Nat → Int)

/-- After `NewEngine(cfg)` and `scheduler.New` with the default collectors. -/
def new (cfg : Config) : Governed := ⟨cfg, Engine.new cfg, Scheduler.new cfg newDefaultCollectors⟩

/-- The collector and period of each ticker `startCollectorJob` has started, in order. -/
def tickers (g : Governed) : List (Collector × Int) := g.scheduler.tickers

/-- One event. A refresh changes the engine only; a scheduler event is taken as
`Scheduler.step` takes it, and the run ends when it panics or cannot be taken. -/
def step (g : Governed) : GovernedEvent → Option Governed
  | .refresh fetch => some { g with engine := (g.engine.refresh fetch).2 }
  | .scheduler event =>
    match g.scheduler.step jitter event with
    | .next s => some { g with scheduler := s }
    | _ => none

/-- Events one after another. -/
def run (g : Governed) : List GovernedEvent → Option Governed
  | [] => some g
  | event :: rest =>
    match g.step jitter event with
    | some g' => g'.run rest
    | none => none

/-- The `Collect` call an event makes, with the engine as it stands at that moment. -/
def calls (g : Governed) : GovernedEvent → List (Collector × Engine)
  | .refresh _ => []
  | .scheduler event => (g.scheduler.calls event).map fun collector => (collector, g.engine)

/-- The `Collect` calls of a run, in order, each with the engine current when it is made. -/
def collections (g : Governed) : List GovernedEvent → List (Collector × Engine)
  | [] => []
  | event :: rest =>
    match g.step jitter event with
    | some g' => g.calls event ++ g'.collections rest
    | none => []

/-- The design's rule for a run: every `Collect` call is of a collector the current policy
enables. -/
def CollectsOnlyEnabled (calls : List (Collector × Engine)) : Prop :=
  ∀ call ∈ calls, call.2.isCollectorEnabled call.1.name = true

instance (calls : List (Collector × Engine)) : Decidable (CollectsOnlyEnabled calls) :=
  inferInstanceAs (Decidable (∀ call ∈ calls, _))

/-! ### What one step does -/

variable {jitter}

private theorem step_refresh (g : Governed) (fetch : PolicyFetch) :
    g.step jitter (.refresh fetch) = some { g with engine := (g.engine.refresh fetch).2 } := rfl

private theorem step_scheduler {g : Governed} {event : SchedulerEvent} {s : Scheduler}
    (next : g.scheduler.step jitter event = .next s) :
    g.step jitter (.scheduler event) = some { g with scheduler := s } := by
  simp [step, next]

private theorem step_scheduler_stuck {g : Governed} {event : SchedulerEvent}
    (stuck : g.scheduler.step jitter event = .disabled ∨ ∃ message, g.scheduler.step jitter event = .panic message) :
    g.step jitter (.scheduler event) = none := by
  obtain stuck | ⟨message, stuck⟩ := stuck <;> simp [step, stuck]

/-- The collectors of a step's calls are the scheduler's. -/
@[simp] theorem calls_map_fst (g : Governed) (event : SchedulerEvent) :
    (g.calls (.scheduler event)).map Prod.fst = g.scheduler.calls event := by
  simp [calls, Function.comp_def]

/-! ### Whole runs -/

/-- The scheduler's part of a run is the scheduler's own run of the scheduler's events: the
`Collect` calls of a run are those of the scheduler alone, whatever the refreshes install. -/
private theorem collections_map_fst (g : Governed) (events : List GovernedEvent) :
    (g.collections jitter events).map Prod.fst = g.scheduler.collections jitter (schedulerEvents events) := by
  induction events generalizing g with
  | nil => rfl
  | cons event rest ih =>
    cases event with
    | refresh fetch => simp only [collections, step_refresh, calls, List.nil_append, ih, schedulerEvents]
    | scheduler event =>
      cases next : g.scheduler.step jitter event with
      | next s =>
        simp only [collections, step_scheduler next, List.map_append, calls_map_fst, ih, schedulerEvents,
          Scheduler.collections, next]
      | panic message =>
        simp [collections, step_scheduler_stuck (.inr ⟨message, next⟩), schedulerEvents, Scheduler.collections, next]
      | disabled =>
        simp [collections, step_scheduler_stuck (.inl next), schedulerEvents, Scheduler.collections, next]

/-- The configuration and the interval never change, and every ticker a run starts has the
interval plus a jitter sample, whatever the refreshes install. -/
private theorem run_periods {g g' : Governed} {events : List GovernedEvent} (periodic : Scheduler.Periodic jitter g.scheduler)
    (ran : g.run jitter events = some g') :
    g'.cfg = g.cfg ∧ g'.scheduler.interval = g.scheduler.interval ∧ Scheduler.Periodic jitter g'.scheduler := by
  induction events generalizing g with
  | nil => cases ran; exact ⟨rfl, rfl, periodic⟩
  | cons event rest ih =>
    cases event with
    | refresh fetch =>
      simp only [run, step_refresh] at ran
      exact ih (g := { g with engine := (g.engine.refresh fetch).2 }) periodic ran
    | scheduler event =>
      cases next : g.scheduler.step jitter event with
      | next s =>
        simp only [run, step_scheduler next] at ran
        obtain ⟨interval, periodic'⟩ := periodic.step next
        obtain ⟨cfg, interval', periodic''⟩ := ih (g := { g with scheduler := s }) periodic' ran
        exact ⟨cfg, interval'.trans interval, periodic''⟩
      | panic message => simp [run, step_scheduler_stuck (.inr ⟨message, next⟩)] at ran
      | disabled => simp [run, step_scheduler_stuck (.inl next)] at ran

end Governed

/-- The policy does not govern collection. For every sequence of refreshes and scheduler events
from `run`'s setup, the `Collect` calls are those the scheduler makes from its own events
alone, whatever policies the refreshes install. Every ticker runs at the configured interval
plus its jitter sample, never at an interval the policy gives. The network collector never
reports a MAC address, whether or not the policy asks for it. -/
theorem policy_not_consulted (cfg : Config) (jitter : Nat → Int) (events : List GovernedEvent) :
    ((Governed.new cfg).collections jitter events).map Prod.fst =
        (Scheduler.new cfg newDefaultCollectors).collections jitter (schedulerEvents events) ∧
      (∀ g, (Governed.new cfg).run jitter events = some g →
        ∀ ticker ∈ g.tickers, ∃ k, ticker.2 = cfg.actualInterval (jitter k)) ∧
      ∀ interfaces infos, defaultNetworkCollector.collect interfaces = .ok infos →
        ∀ info ∈ infos, "mac" ∉ info.map Prod.fst :=
  ⟨Governed.collections_map_fst _ events,
    fun _ ran ticker member => by
      obtain ⟨-, interval, periodic⟩ := Governed.run_periods
        ⟨by simp [Governed.new, Scheduler.new], by simp [Governed.new, Scheduler.new]⟩ ran
      obtain ⟨k, period⟩ := periodic.tickers ticker member
      exact ⟨k, period.trans (by rw [interval]; rfl)⟩,
    fun _ _ => NetworkCollector.collect_no_mac rfl⟩

/-- A policy that names only the disk and network collectors, disables both, asks for the disk
every five minutes and for MAC addresses. -/
def lockedPolicy : Policy where
  version := "2.0.0"
  collectors
    | "disk" => some ⟨false, 300 * second, fun _ => none⟩
    | "network" => some ⟨false, 60 * second, fun key => if key = "collect_mac" then some (.bool true) else none⟩
    | _ => none

/-- The policy is installed, the scheduler started, and the CPU job runs its collector. -/
def lockedRun : List GovernedEvent :=
  [.refresh (.answered 200 "" (.ok lockedPolicy)), .scheduler (.start 0), .scheduler (.collect 1)]

/-- One interface with a hardware address. -/
def ethernet : InterfaceStat := ⟨"eth0", 1500, "00:1a:2b:3c:4d:5e", ["up"], ["10.0.0.2/24"]⟩

theorem policy_not_consulted_locked :
    ((Governed.new Config.loadedConfig).collections (fun _ => 0) lockedRun).map Prod.fst = [⟨1, "cpu"⟩] ∧
      ¬ Governed.CollectsOnlyEnabled ((Governed.new Config.loadedConfig).collections (fun _ => 0) lockedRun) ∧
      ((Governed.new Config.loadedConfig).run (fun _ => 0) lockedRun).map (fun g => g.tickers[3]?) =
        some (some (⟨3, "disk"⟩, 60 * second)) ∧
      (⟨Config.loadedConfig, lockedPolicy⟩ : Engine).getCollectorInterval "disk" = 300 * second ∧
      lockedPolicy.collectsMAC = true ∧
      ∀ info ∈ [defaultNetworkCollector.interfaceInfo ethernet], "mac" ∉ info.map Prod.fst :=
  have governed := policy_not_consulted Config.loadedConfig (fun _ => 0) lockedRun
  ⟨by rw [governed.1]; rfl, by decide, by decide, by decide, by decide, governed.2.2 (.ok [ethernet]) _ rfl⟩

end EndpointAgent
