import EndpointAgent.Tickers

/-!
# Collection scheduler

`internal/scheduler` (`Scheduler`). A run interleaves the scheduler's calls with the steps of
the goroutines `startCollectorJob` starts, one job per goroutine. Every call takes `s.mu`;
`Stop` keeps it while it waits for the jobs, so no other call proceeds until `Stop` returns,
while the jobs go on. Time is not modelled: a waiting job's ticker may fire at any moment,
and `Stop`'s 30-second wait may end while a job is still inside `runCollector`.

`startCollectorJob` draws a jitter sample from `rand`, the `k`-th of the run being `jitter k`,
and gives the job the period `CollectionInterval + jitter`, an `int64` sum. The goroutine's
first act is `time.NewTicker` of that period, which panics on a period that is not positive;
a panic in a goroutine ends the program.

`s.stopCh` is made once, in `New`, and `Stop` closes it: a second `Stop` that finds the
scheduler running closes a closed channel, and a job started after the first `Stop` finds
the channel closed as soon as it reaches its `select`.
-/

set_option autoImplicit false

namespace EndpointAgent

/-- A collector value: registering the same value twice registers one collector twice. -/
structure Collector where
  id : Nat
  name : String
  deriving DecidableEq, Repr

/-- Where a job goroutine is. -/
inductive JobPhase where
  /-- Started, about to run its collector once before entering its loop. -/
  | booting
  /-- Inside `runCollector`. -/
  | collecting
  /-- In the loop's `select`. -/
  | waiting
  deriving DecidableEq, Repr

/-- One goroutine of `startCollectorJob`: its collector, the context it watches (`none` for
`context.Background()`), the period of its ticker, and where it is. -/
structure Job where
  collector : Collector
  context : Option Nat
  period : Int
  phase : JobPhase
  deriving DecidableEq, Repr

/-- `scheduler.Scheduler` with its goroutines. `interval` is `s.cfg.CollectionInterval`,
`stopClosed` says `s.stopCh` is closed, `stopping` that a `Stop` call holds `s.mu` while it
waits, and `cancelled` lists the contexts given to `Start` that are done. `tickers` is the
collector and period of every ticker `startCollectorJob` has started, in order, as its log line
reports them; its length is the number of jitter samples drawn. -/
structure Scheduler where
  interval : Int
  collectors : List Collector
  running : Bool
  stopClosed : Bool
  stopping : Bool
  jobs : List Job
  cancelled : List Nat
  tickers : List (Collector × Int)
  deriving DecidableEq, Repr

/-- A call on the scheduler, or a step of one of its jobs (by position in `jobs`). -/
inductive SchedulerEvent where
  | start (context : Nat)
  | stop
  /-- `Stop`'s `select` ends: `wg.Wait` returned, or (`timedOut`) 30 seconds passed. -/
  | stopReturns (timedOut : Bool)
  | addCollector (collector : Collector)
  | removeCollector (name : String)
  /-- The context given to `Start` under this number is cancelled. -/
  | cancel (context : Nat)
  /-- The job calls `runCollector`: right after it starts and makes its ticker, or when its
  `select` takes the ticker. -/
  | collect (job : Nat)
  /-- The job's `runCollector` returns. -/
  | collected (job : Nat)
  /-- The job's `select` takes `s.stopCh` or `ctx.Done()` and the goroutine returns. -/
  | exit (job : Nat)
  deriving DecidableEq, Repr

/-- How an event ends: in a new state, in a panic, or not at all in this state (a call
waiting for `s.mu`, or a job step its goroutine cannot take). -/
inductive SchedulerOutcome where
  | next (s : Scheduler)
  | panic (message : String)
  | disabled
  deriving DecidableEq, Repr

namespace Scheduler

/-- `New(cfg, ...)`: not running, with a fresh `stopCh`. -/
def new (cfg : Config) (collectors : List Collector) : Scheduler :=
  ⟨cfg.collectionInterval, collectors, false, false, false, [], [], []⟩

variable (jitter : Nat → Int)

/-- `startCollectorJob(ctx, collector)`: the next jitter sample gives `actualInterval`, and a
goroutine starts that makes its ticker and runs its collector. -/
def startCollectorJob (s : Scheduler) (context : Option Nat) (collector : Collector) : Scheduler :=
  let actualInterval := int64Wrap (s.interval + jitter s.tickers.length)
  { s with
    jobs := s.jobs ++ [⟨collector, context, actualInterval, .booting⟩]
    tickers := s.tickers ++ [(collector, actualInterval)] }

/-- `Start(ctx)`. -/
def start (s : Scheduler) (context : Nat) : Scheduler :=
  if s.running then s
  else s.collectors.foldl (fun s collector => s.startCollectorJob jitter (some context) collector)
    { s with running := true }

/-- `Stop` up to its wait: `close(s.stopCh)`. -/
def stop (s : Scheduler) : SchedulerOutcome :=
  if !s.running then .next s
  else if s.stopClosed then .panic "close of closed channel"
  else .next { s with stopClosed := true, stopping := true }

/-- The end of `Stop`'s wait: `wg.Wait` returns once no job is left; the timeout may come
at any moment. -/
def stopReturns (s : Scheduler) (timedOut : Bool) : SchedulerOutcome :=
  if s.stopping && (timedOut || s.jobs.isEmpty) then
    .next { s with stopping := false, running := false }
  else .disabled

/-- `AddCollector(collector)`: its job watches `context.Background()`. -/
def addCollector (s : Scheduler) (collector : Collector) : Scheduler :=
  let s := { s with collectors := s.collectors ++ [collector] }
  if s.running then s.startCollectorJob jitter none collector else s

/-- The collectors without the first one named `name`. -/
def removeNamed (name : String) : List Collector → List Collector
  | [] => []
  | collector :: rest => if collector.name = name then rest else collector :: removeNamed name rest

/-- `RemoveCollector(name)`: the slice only; a running job of that collector goes on. -/
def removeCollector (s : Scheduler) (name : String) : Scheduler :=
  { s with collectors := removeNamed name s.collectors }

/-- The job at `i` calls `runCollector`; a job that has just started first makes its ticker,
and `time.NewTicker` panics on a period that is not positive. -/
def collect (s : Scheduler) (i : Nat) : SchedulerOutcome :=
  match s.jobs[i]? with
  | some job =>
    if job.phase = .collecting then .disabled
    else
      match job.phase, newTicker job.period with
      | .booting, .error message => .panic message
      | _, _ => .next { s with jobs := s.jobs.set i { job with phase := .collecting } }
  | none => .disabled

/-- The job at `i` returns from `runCollector` to its `select`. -/
def collected (s : Scheduler) (i : Nat) : SchedulerOutcome :=
  match s.jobs[i]? with
  | some job =>
    if job.phase = .collecting then .next { s with jobs := s.jobs.set i { job with phase := .waiting } }
    else .disabled
  | none => .disabled

/-- A waiting job's `select` can take `s.stopCh` or its context's `Done`. -/
def canExit (s : Scheduler) (job : Job) : Bool :=
  s.stopClosed || job.context.any (· ∈ s.cancelled)

/-- The job at `i` leaves its loop, and `wg.Done` runs. -/
def exit (s : Scheduler) (i : Nat) : SchedulerOutcome :=
  match s.jobs[i]? with
  | some job =>
    if job.phase = .waiting && s.canExit job then .next { s with jobs := s.jobs.eraseIdx i }
    else .disabled
  | none => .disabled

/-- One event. A call other than `stopReturns` waits while a `Stop` holds `s.mu`. -/
def step (s : Scheduler) : SchedulerEvent → SchedulerOutcome
  | .start context => if s.stopping then .disabled else .next (s.start jitter context)
  | .stop => if s.stopping then .disabled else s.stop
  | .stopReturns timedOut => s.stopReturns timedOut
  | .addCollector collector => if s.stopping then .disabled else .next (s.addCollector jitter collector)
  | .removeCollector name => if s.stopping then .disabled else .next (s.removeCollector name)
  | .cancel context => .next { s with cancelled := context :: s.cancelled }
  | .collect i => s.collect i
  | .collected i => s.collected i
  | .exit i => s.exit i

/-- Events one after another; a panic ends the run. -/
def run (s : Scheduler) : List SchedulerEvent → SchedulerOutcome
  | [] => .next s
  | event :: rest =>
    match s.step jitter event with
    | .next s' => s'.run rest
    | other => other

/-- `P` holds of every event of a run, in the state the event finds. -/
def EveryStep (P : Scheduler → SchedulerEvent → Prop) (s : Scheduler) : List SchedulerEvent → Prop
  | [] => True
  | event :: rest =>
    P s event ∧
      match s.step jitter event with
      | .next s' => EveryStep P s' rest
      | _ => True

instance decidableEveryStep (P : Scheduler → SchedulerEvent → Prop) [∀ s event, Decidable (P s event)] :
    (s : Scheduler) → (events : List SchedulerEvent) → Decidable (EveryStep jitter P s events)
  | _, [] => isTrue trivial
  | s, event :: rest =>
    match stepped : s.step jitter event with
    | .next s' =>
      have := decidableEveryStep P s' rest
      decidable_of_iff (P s event ∧ EveryStep jitter P s' rest) (by simp [EveryStep, stepped])
    | .panic message => decidable_of_iff (P s event) (by simp [EveryStep, stepped])
    | .disabled => decidable_of_iff (P s event) (by simp [EveryStep, stepped])

/-! ## Periods -/

/-- Every job's ticker and every ticker started has the interval plus a jitter sample as
period. -/
structure Periodic (s : Scheduler) : Prop where
  jobs : ∀ job ∈ s.jobs, ∃ k, job.period = int64Wrap (s.interval + jitter k)
  tickers : ∀ ticker ∈ s.tickers, ∃ k, ticker.2 = int64Wrap (s.interval + jitter k)

variable {jitter}

theorem Periodic.mono {s s' : Scheduler} (periodic : Periodic jitter s) (interval : s'.interval = s.interval)
    (tickers : s'.tickers = s.tickers) (jobs : ∀ job ∈ s'.jobs, ∃ old ∈ s.jobs, old.period = job.period) :
    Periodic jitter s' where
  jobs job member := by
    obtain ⟨old, present, same⟩ := jobs job member
    rw [interval, ← same]
    exact periodic.jobs old present
  tickers := interval ▸ tickers ▸ periodic.tickers

theorem Periodic.startCollectorJob {s : Scheduler} (periodic : Periodic jitter s) (context : Option Nat)
    (collector : Collector) : Periodic jitter (s.startCollectorJob jitter context collector) where
  jobs job member := by
    rcases List.mem_append.mp member with old | added
    · exact periodic.jobs job old
    · rw [List.mem_singleton.mp added]
      exact ⟨_, rfl⟩
  tickers ticker member := by
    rcases List.mem_append.mp member with old | added
    · exact periodic.tickers ticker old
    · rw [List.mem_singleton.mp added]
      exact ⟨_, rfl⟩

/-- Starting jobs one after another adds a booting job per collector, in order, and keeps
everything but the jobs and the tickers. -/
theorem foldl_startCollectorJob (context : Option Nat) (collectors : List Collector) (s : Scheduler) :
    ∃ added : List Job,
      collectors.foldl (fun s collector => s.startCollectorJob jitter context collector) s =
        { s with jobs := s.jobs ++ added,
                 tickers := s.tickers ++ added.map fun job => (job.collector, job.period) } ∧
      added.map Job.collector = collectors ∧ ∀ job ∈ added, job.phase = .booting := by
  induction collectors generalizing s with
  | nil => exact ⟨[], by simp⟩
  | cons collector rest ih =>
    obtain ⟨added, folded, collectors, booting⟩ := ih (s.startCollectorJob jitter context collector)
    refine ⟨⟨collector, context, int64Wrap (s.interval + jitter s.tickers.length), .booting⟩ :: added, ?_,
      by simp [collectors], ?_⟩
    · rw [List.foldl_cons, folded]
      simp [startCollectorJob]
    · rintro job (_ | ⟨_, member⟩)
      · rfl
      · exact booting job member

theorem Periodic.foldl {s : Scheduler} (periodic : Periodic jitter s) (context : Option Nat)
    (collectors : List Collector) :
    Periodic jitter (collectors.foldl (fun s collector => s.startCollectorJob jitter context collector) s) := by
  induction collectors generalizing s with
  | nil => exact periodic
  | cons collector rest ih => exact ih (periodic.startCollectorJob context collector)

private theorem interval_foldl (context : Option Nat) (collectors : List Collector) (s : Scheduler) :
    (collectors.foldl (fun s collector => s.startCollectorJob jitter context collector) s).interval = s.interval := by
  obtain ⟨added, folded, -⟩ := @foldl_startCollectorJob jitter context collectors s
  rw [folded]

/-- A job changing phase keeps the periods. -/
private theorem mem_set_phase {jobs : List Job} {i : Nat} {job : Job} (found : jobs[i]? = some job)
    (phase : JobPhase) : ∀ other ∈ jobs.set i { job with phase }, ∃ old ∈ jobs, old.period = other.period :=
  fun other member => by
    rcases List.mem_or_eq_of_mem_set member with old | rfl
    · exact ⟨other, old, rfl⟩
    · exact ⟨job, List.getElem?_mem found, rfl⟩

/-- No step changes the interval, and every step keeps the periods. -/
theorem Periodic.step {s s' : Scheduler} {event : SchedulerEvent} (periodic : Periodic jitter s)
    (stepped : s.step jitter event = .next s') : s'.interval = s.interval ∧ Periodic jitter s' := by
  have same : ∀ job ∈ s.jobs, ∃ old ∈ s.jobs, old.period = job.period := fun job member => ⟨job, member, rfl⟩
  cases event with
  | start context =>
    simp only [Scheduler.step, Scheduler.start] at stepped
    split at stepped
    · cases stepped
    · split at stepped <;> cases stepped
      · exact ⟨rfl, periodic⟩
      · exact ⟨interval_foldl _ _ _, (@Periodic.mono jitter s { s with running := true } periodic rfl rfl same).foldl _ _⟩
  | stop =>
    simp only [Scheduler.step, Scheduler.stop] at stepped
    split at stepped
    · cases stepped
    · split at stepped
      · cases stepped; exact ⟨rfl, periodic⟩
      · split at stepped
        · cases stepped
        · cases stepped; exact ⟨rfl, periodic.mono rfl rfl same⟩
  | stopReturns timedOut =>
    simp only [Scheduler.step, Scheduler.stopReturns] at stepped
    split at stepped
    · cases stepped; exact ⟨rfl, periodic.mono rfl rfl same⟩
    · cases stepped
  | addCollector collector =>
    simp only [Scheduler.step, Scheduler.addCollector] at stepped
    split at stepped
    · cases stepped
    · cases stepped
      split
      · exact ⟨rfl, (@Periodic.mono jitter s { s with collectors := s.collectors ++ [collector] } periodic
          rfl rfl same).startCollectorJob _ _⟩
      · exact ⟨rfl, periodic.mono rfl rfl same⟩
  | removeCollector name =>
    simp only [Scheduler.step] at stepped
    split at stepped
    · cases stepped
    · cases stepped; exact ⟨rfl, periodic.mono rfl rfl same⟩
  | cancel context => cases stepped; exact ⟨rfl, periodic.mono rfl rfl same⟩
  | collect i =>
    simp only [Scheduler.step, Scheduler.collect] at stepped
    split at stepped
    · rename_i job found
      split at stepped
      · cases stepped
      · split at stepped
        · cases stepped
        · cases stepped; exact ⟨rfl, periodic.mono rfl rfl (mem_set_phase found _)⟩
    · cases stepped
  | collected i =>
    simp only [Scheduler.step, Scheduler.collected] at stepped
    split at stepped
    · rename_i job found
      split at stepped
      · cases stepped; exact ⟨rfl, periodic.mono rfl rfl (mem_set_phase found _)⟩
      · cases stepped
    · cases stepped
  | exit i =>
    simp only [Scheduler.step, Scheduler.exit] at stepped
    split at stepped
    · split at stepped
      · cases stepped
        exact ⟨rfl, periodic.mono rfl rfl fun job member =>
          ⟨job, (List.eraseIdx_sublist s.jobs i).subset member, rfl⟩⟩
      · cases stepped
    · cases stepped

end Scheduler

end EndpointAgent
