import EndpointAgent.Scheduler

/-!
# Scheduler lifecycle

Which runs keep the scheduler's jobs in order. `s.stopCh` is never made again, so a `Start`
after an effective `Stop` makes jobs that see the closed channel, and the next `Stop` panics;
a job whose ticker period is not positive panics in `time.NewTicker`; `AddCollector` of a
collector that is registered or still has a job starts a second job for it; and a `Stop` that
gives up waiting returns while a job is still collecting, which may then take its ticker
again. Without these, every call returns without panicking, no two runs of one collector
overlap, and no job exists while the scheduler is not running, whatever contexts are
cancelled and collectors removed. A running scheduler has exactly one job per registered
collector and none for another only when, besides, no context is cancelled and
`RemoveCollector` is called only while it is stopped: a cancelled context ends jobs of a
running scheduler, and `RemoveCollector` never stops a job.
-/

set_option autoImplicit false

namespace EndpointAgent

namespace Scheduler

/-- The calls the lifecycle is stated for: no `Start` once `stopCh` is closed, no
registration of a collector that is registered or has a job, and no `Stop` whose wait times
out. -/
def Allowed (s : Scheduler) : SchedulerEvent → Prop
  | .start _ => s.stopClosed = false
  | .stopReturns timedOut => timedOut = false
  | .addCollector collector => collector ∉ s.collectors ∧ collector ∉ s.jobs.map Job.collector
  | _ => True

instance decidableAllowed (s : Scheduler) : (event : SchedulerEvent) → Decidable (Allowed s event)
  | .start _ => inferInstanceAs (Decidable (s.stopClosed = false))
  | .stopReturns timedOut => inferInstanceAs (Decidable (timedOut = false))
  | .addCollector collector =>
    inferInstanceAs (Decidable (collector ∉ s.collectors ∧ collector ∉ s.jobs.map Job.collector))
  | .stop | .removeCollector _ | .cancel _ | .collect _ | .collected _ | .exit _ => isTrue trivial

/-- What one job per registered collector needs besides: no `RemoveCollector` while running
and no cancelled context. -/
def Steady (s : Scheduler) : SchedulerEvent → Prop
  | .removeCollector _ => s.running = false
  | .cancel _ => False
  | _ => True

instance decidableSteady (s : Scheduler) : (event : SchedulerEvent) → Decidable (Steady s event)
  | .removeCollector _ => inferInstanceAs (Decidable (s.running = false))
  | .cancel _ => isFalse id
  | .start _ | .stop | .stopReturns _ | .addCollector _ | .collect _ | .collected _ | .exit _ =>
    isTrue trivial

/-- At most one job per collector, none while not running, and a running scheduler is
stopping exactly when `stopCh` is closed. -/
structure Safe (s : Scheduler) : Prop where
  collectors_nodup : s.collectors.Nodup
  jobs_nodup : (s.jobs.map Job.collector).Nodup
  idle : s.running = false → s.jobs = [] ∧ s.stopping = false
  stopping_iff : s.running = true → (s.stopping = true ↔ s.stopClosed = true)

/-- Besides, the jobs match the registered collectors: none for an unregistered one, one for
each registered collector while running before `Stop`, and no context is cancelled. -/
structure Orderly (s : Scheduler) extends Safe s : Prop where
  jobs_registered : ∀ c ∈ s.jobs.map Job.collector, c ∈ s.collectors
  registered_jobs : s.running = true → s.stopClosed = false → ∀ c ∈ s.collectors, c ∈ s.jobs.map Job.collector
  uncancelled : s.cancelled = []

private theorem new_orderly (cfg : Config) (collectors : List Collector) (distinct : collectors.Nodup) :
    Orderly (new cfg collectors) :=
  ⟨⟨distinct, List.nodup_nil, fun _ => ⟨rfl, rfl⟩, by simp [new]⟩, by simp [new], by simp [new], rfl⟩

/-- A job changing phase keeps every job's collector. -/
private theorem map_collector_set {jobs : List Job} {i : Nat} {job : Job} (found : jobs[i]? = some job)
    (phase : JobPhase) : (jobs.set i { job with phase }).map Job.collector = jobs.map Job.collector := by
  induction jobs generalizing i with
  | nil => simp at found
  | cons head rest ih =>
      cases i with
      | zero => simp only [List.getElem?_cons_zero, Option.some.injEq] at found; simp [found]
      | succ i =>
          simp only [List.getElem?_cons_succ] at found
          simp only [List.set_cons_succ, List.map_cons, ih found]

/-- A state whose job list keeps its collectors stays safe, and orderly. -/
private theorem Safe.of_jobs {s : Scheduler} (safe : Safe s) (jobs : List Job)
    (same : jobs.map Job.collector = s.jobs.map Job.collector) : Safe { s with jobs } where
  collectors_nodup := safe.collectors_nodup
  jobs_nodup := same ▸ safe.jobs_nodup
  idle := fun stopped => ⟨List.map_eq_nil_iff.mp (same.trans (by rw [(safe.idle stopped).1]; rfl)),
    (safe.idle stopped).2⟩
  stopping_iff := safe.stopping_iff

private theorem Orderly.of_jobs {s : Scheduler} (orderly : Orderly s) (jobs : List Job)
    (same : jobs.map Job.collector = s.jobs.map Job.collector) : Orderly { s with jobs } :=
  ⟨orderly.toSafe.of_jobs jobs same, same ▸ orderly.jobs_registered, same ▸ orderly.registered_jobs,
    orderly.uncancelled⟩

variable {jitter : Nat → Int}

/-- Only `Stop` and a starting job panic: `Stop` when no other `Stop` holds the lock, the
scheduler runs and `stopCh` is already closed; a starting job when its period is not
positive. -/
private theorem step_panic {s : Scheduler} {event : SchedulerEvent} {message : String}
    (panicked : s.step jitter event = .panic message) :
    (event = .stop ∧ s.stopping = false ∧ s.running = true ∧ s.stopClosed = true) ∨
      ∃ i job, event = .collect i ∧ s.jobs[i]? = some job ∧ job.period ≤ 0 := by
  cases event with
  | stop =>
      simp only [step, stop] at panicked
      by_cases stopping : s.stopping <;> by_cases running : s.running <;>
        by_cases closed : s.stopClosed <;> simp [stopping, running, closed] at panicked ⊢
  | start | addCollector | removeCollector =>
      simp only [step] at panicked
      split at panicked <;> cases panicked
  | cancel => cases panicked
  | stopReturns =>
      simp only [step, stopReturns] at panicked
      split at panicked <;> cases panicked
  | collect i =>
      simp only [step, collect] at panicked
      split at panicked
      · rename_i job found
        split at panicked
        · cases panicked
        · split at panicked
          · rename_i ticked
            unfold newTicker at ticked
            split at ticked
            · exact .inr ⟨i, job, rfl, found, ‹_›⟩
            · cases ticked
          · cases panicked
      · cases panicked
  | collected | exit =>
      simp only [step, collected, exit] at panicked
      split at panicked
      · split at panicked <;> cases panicked
      · cases panicked

/-- No event panics in a safe state whose jobs have positive periods: a running scheduler
whose `stopCh` is closed is inside `Stop`, which holds the lock. -/
private theorem Safe.step_ne_panic {s : Scheduler} {event : SchedulerEvent} (safe : Safe s)
    (ticking : ∀ job ∈ s.jobs, 0 < job.period) (message : String) : s.step jitter event ≠ .panic message :=
  fun panicked => by
    rcases step_panic panicked with ⟨-, stopping, running, closed⟩ | ⟨i, job, -, found, period⟩
    · simp [(safe.stopping_iff running).mpr closed] at stopping
    · exact absurd (ticking job (List.getElem?_mem found)) (not_lt.mpr period)

private theorem removeNamed_sublist (name : String) (collectors : List Collector) :
    List.Sublist (removeNamed name collectors) collectors := by
  induction collectors with
  | nil => exact List.Sublist.slnil
  | cons collector rest ih =>
      unfold removeNamed
      split
      · exact List.sublist_cons_self _ _
      · exact ih.cons₂ _

/-- A call that waits while a `Stop` holds `s.mu` goes ahead only when no `Stop` does. -/
private theorem next_of_unlocked {stopping : Bool} {outcome : SchedulerOutcome} {s' : Scheduler}
    (stepped : (if stopping then .disabled else outcome) = .next s') :
    stopping = false ∧ outcome = .next s' := by
  cases stopping
  · exact ⟨rfl, stepped⟩
  · cases stepped

/-! ## What each call keeps -/

/-- `Start` from a stopped scheduler gives one job per registered collector. -/
theorem Safe.start {s : Scheduler} (safe : Safe s) (free : s.stopping = false)
    (fresh : s.stopClosed = false) (context : Nat) : Safe (s.start jitter context) := by
  unfold Scheduler.start
  split
  · exact safe
  · rename_i stopped
    obtain ⟨empty, -⟩ := safe.idle (by simpa using stopped)
    obtain ⟨added, folded, collectors, -⟩ := @foldl_startCollectorJob jitter (some context)
      s.collectors { s with running := true }
    rw [folded]
    refine ⟨safe.collectors_nodup, ?_, fun running => (by cases running), ?_⟩
    · simpa [empty, collectors] using safe.collectors_nodup
    · simp [free, fresh]

theorem Orderly.start {s : Scheduler} (orderly : Orderly s) (free : s.stopping = false)
    (fresh : s.stopClosed = false) (context : Nat) : Orderly (s.start jitter context) := by
  have safe : Safe (s.start jitter context) := orderly.toSafe.start free fresh context
  unfold Scheduler.start at safe ⊢
  split
  · exact orderly
  · rename_i stopped
    obtain ⟨empty, -⟩ := orderly.idle (by simpa using stopped)
    obtain ⟨added, folded, collectors, -⟩ := @foldl_startCollectorJob jitter (some context)
      s.collectors { s with running := true }
    rw [if_neg stopped, folded] at safe
    rw [folded]
    exact ⟨safe, by simp [empty, collectors], by simp [empty, collectors], orderly.uncancelled⟩

theorem Safe.stop {s s' : Scheduler} (safe : Safe s) (stepped : s.stop = .next s') : Safe s' := by
  unfold Scheduler.stop at stepped
  split at stepped
  · cases stepped
    exact safe
  · split at stepped
    · cases stepped
    · cases stepped
      exact ⟨safe.collectors_nodup, safe.jobs_nodup, fun stopped => (by simp_all), fun _ => (by simp)⟩

theorem Orderly.stop {s s' : Scheduler} (orderly : Orderly s) (stepped : s.stop = .next s') :
    Orderly s' := by
  have safe := orderly.toSafe.stop stepped
  unfold Scheduler.stop at stepped
  split at stepped
  · cases stepped
    exact orderly
  · split at stepped
    · cases stepped
    · cases stepped
      exact ⟨safe, orderly.jobs_registered, fun _ reopened => (by cases reopened), orderly.uncancelled⟩

theorem Safe.stopReturns {s s' : Scheduler} (safe : Safe s)
    (stepped : s.stopReturns false = .next s') : Safe s' ∧ s'.jobs = [] := by
  unfold Scheduler.stopReturns at stepped
  split at stepped
  · rename_i waited
    cases stepped
    simp only [Bool.and_eq_true, Bool.false_or, List.isEmpty_iff] at waited
    refine ⟨⟨safe.collectors_nodup, ?_, fun _ => ⟨waited.2, rfl⟩, fun stopped => (by cases stopped)⟩,
      waited.2⟩
    simp [waited.2]
  · cases stepped

theorem Orderly.stopReturns {s s' : Scheduler} (orderly : Orderly s)
    (stepped : s.stopReturns false = .next s') : Orderly s' := by
  obtain ⟨safe, empty⟩ := orderly.toSafe.stopReturns stepped
  unfold Scheduler.stopReturns at stepped
  split at stepped
  · cases stepped
    dsimp only at empty
    exact ⟨safe, by simp [empty], fun stopped => (by cases stopped), orderly.uncancelled⟩
  · cases stepped

theorem Safe.addCollector {s : Scheduler} (safe : Safe s) {collector : Collector}
    (unregistered : collector ∉ s.collectors) (jobless : collector ∉ s.jobs.map Job.collector) :
    Safe (s.addCollector jitter collector) := by
  have registered : (s.collectors ++ [collector]).Nodup :=
    List.nodup_append.mpr ⟨safe.collectors_nodup, List.nodup_singleton _, by simpa using unregistered⟩
  unfold Scheduler.addCollector startCollectorJob
  dsimp only
  split
  · refine ⟨registered, ?_, fun stopped => (by simp_all), safe.stopping_iff⟩
    simp only [List.map_append, List.map_cons, List.map_nil]
    exact List.nodup_append.mpr ⟨safe.jobs_nodup, List.nodup_singleton _, by simpa using jobless⟩
  · exact ⟨registered, safe.jobs_nodup, safe.idle, safe.stopping_iff⟩

theorem Orderly.addCollector {s : Scheduler} (orderly : Orderly s) {collector : Collector}
    (unregistered : collector ∉ s.collectors) (jobless : collector ∉ s.jobs.map Job.collector) :
    Orderly (s.addCollector jitter collector) := by
  have safe : Safe (s.addCollector jitter collector) := orderly.toSafe.addCollector unregistered jobless
  unfold Scheduler.addCollector startCollectorJob at safe ⊢
  dsimp only at safe ⊢
  by_cases running : s.running = true
  · rw [if_pos running] at safe ⊢
    refine ⟨safe, ?_, ?_, orderly.uncancelled⟩
    · intro c member
      simp only [List.map_append, List.map_cons, List.map_nil, List.mem_append, List.mem_singleton] at member
      rcases member with old | rfl
      · exact List.mem_append_left _ (orderly.jobs_registered c old)
      · simp
    · intro _ fresh c member
      simp only [List.map_append, List.map_cons, List.map_nil]
      rcases List.mem_append.mp member with old | added
      · exact List.mem_append_left _ (orderly.registered_jobs running fresh c old)
      · simp_all
  · rw [if_neg running] at safe ⊢
    exact ⟨safe, fun c member => List.mem_append_left _ (orderly.jobs_registered c member),
      fun running' => absurd running' running, orderly.uncancelled⟩

theorem Safe.removeCollector {s : Scheduler} (safe : Safe s) (name : String) :
    Safe (s.removeCollector name) :=
  ⟨(removeNamed_sublist name s.collectors).nodup safe.collectors_nodup, safe.jobs_nodup, safe.idle,
    safe.stopping_iff⟩

theorem Orderly.removeCollector {s : Scheduler} (orderly : Orderly s) (stopped : s.running = false)
    (name : String) : Orderly (s.removeCollector name) := by
  obtain ⟨empty, -⟩ := orderly.idle stopped
  exact ⟨orderly.toSafe.removeCollector name, by simp [Scheduler.removeCollector, empty],
    fun running => absurd running (by simp [Scheduler.removeCollector, stopped]), orderly.uncancelled⟩

/-- `runCollector` starting or returning changes one job's phase only. -/
private theorem phase_step {s s' : Scheduler} {i : Nat}
    (stepped : s.collect i = .next s' ∨ s.collected i = .next s') :
    ∃ job phase, s.jobs[i]? = some job ∧ s' = { s with jobs := s.jobs.set i { job with phase } } := by
  rcases stepped with stepped | stepped
  · unfold Scheduler.collect at stepped
    split at stepped
    · rename_i job found
      split at stepped
      · cases stepped
      · split at stepped
        · cases stepped
        · cases stepped; exact ⟨job, _, found, rfl⟩
    · cases stepped
  · unfold Scheduler.collected at stepped
    split at stepped
    · rename_i job found
      split at stepped
      · cases stepped; exact ⟨job, _, found, rfl⟩
      · cases stepped
    · cases stepped

/-- A job leaves its loop only when `stopCh` is closed or its context is done, and takes
its collector with it. -/
private theorem exit_step {s s' : Scheduler} {i : Nat} (stepped : s.exit i = .next s') :
    ∃ job, s.jobs[i]? = some job ∧ s.canExit job = true ∧ s' = { s with jobs := s.jobs.eraseIdx i } := by
  unfold Scheduler.exit at stepped
  split at stepped
  · rename_i job found
    split at stepped
    · rename_i leaving
      cases stepped
      exact ⟨job, found, (Bool.and_eq_true _ _ ▸ leaving).2, rfl⟩
    · cases stepped
  · cases stepped

theorem Safe.exit {s s' : Scheduler} (safe : Safe s) {i : Nat} (stepped : s.exit i = .next s') : Safe s' := by
  obtain ⟨job, -, -, rfl⟩ := exit_step stepped
  have fewer := (List.eraseIdx_sublist s.jobs i).map Job.collector
  refine ⟨safe.collectors_nodup, fewer.nodup safe.jobs_nodup, fun stopped => ?_, safe.stopping_iff⟩
  obtain ⟨empty, free⟩ := safe.idle stopped
  simp [empty, free]

/-- With no context cancelled, a job leaves only once `stopCh` is closed. -/
theorem Orderly.exit {s s' : Scheduler} (orderly : Orderly s) {i : Nat}
    (stepped : s.exit i = .next s') : Orderly s' := by
  have safe := orderly.toSafe.exit stepped
  obtain ⟨job, -, exits, rfl⟩ := exit_step stepped
  have closed : s.stopClosed = true := by
    simp only [canExit, orderly.uncancelled, Bool.or_eq_true] at exits
    rcases exits with closed | never
    · exact closed
    · cases context : job.context <;> simp [context] at never
  have fewer := (List.eraseIdx_sublist s.jobs i).map Job.collector
  exact ⟨safe, fun c member => orderly.jobs_registered c (fewer.subset member),
    fun _ reopened => by simp_all, orderly.uncancelled⟩

/-! ## Whole runs -/

/-- Every allowed event keeps the scheduler safe. -/
theorem Safe.step {s s' : Scheduler} {event : SchedulerEvent} (safe : Safe s)
    (allowed : Allowed s event) (stepped : s.step jitter event = .next s') : Safe s' := by
  cases event with
  | start context =>
    obtain ⟨free, ⟨⟩⟩ := next_of_unlocked stepped
    exact safe.start free allowed context
  | stop => exact safe.stop (next_of_unlocked stepped).2
  | stopReturns timedOut =>
    subst allowed
    exact (safe.stopReturns stepped).1
  | addCollector collector =>
    obtain ⟨-, ⟨⟩⟩ := next_of_unlocked stepped
    exact safe.addCollector allowed.1 allowed.2
  | removeCollector name =>
    obtain ⟨-, ⟨⟩⟩ := next_of_unlocked stepped
    exact safe.removeCollector name
  | cancel context =>
    cases stepped
    exact ⟨safe.collectors_nodup, safe.jobs_nodup, safe.idle, safe.stopping_iff⟩
  | collect i | collected i =>
    first
      | obtain ⟨job, phase, found, rfl⟩ := phase_step (.inl stepped)
      | obtain ⟨job, phase, found, rfl⟩ := phase_step (.inr stepped)
    exact safe.of_jobs _ (map_collector_set found _)
  | exit i => exact safe.exit stepped

/-- Every allowed and steady event keeps the jobs in order. -/
theorem Orderly.step {s s' : Scheduler} {event : SchedulerEvent} (orderly : Orderly s)
    (allowed : Allowed s event) (steady : Steady s event) (stepped : s.step jitter event = .next s') :
    Orderly s' := by
  cases event with
  | start context =>
    obtain ⟨free, ⟨⟩⟩ := next_of_unlocked stepped
    exact orderly.start free allowed context
  | stop => exact orderly.stop (next_of_unlocked stepped).2
  | stopReturns timedOut =>
    subst allowed
    exact orderly.stopReturns stepped
  | addCollector collector =>
    obtain ⟨-, ⟨⟩⟩ := next_of_unlocked stepped
    exact orderly.addCollector allowed.1 allowed.2
  | removeCollector name =>
    obtain ⟨-, ⟨⟩⟩ := next_of_unlocked stepped
    exact orderly.removeCollector steady name
  | cancel => cases steady
  | collect i | collected i =>
    first
      | obtain ⟨job, phase, found, rfl⟩ := phase_step (.inl stepped)
      | obtain ⟨job, phase, found, rfl⟩ := phase_step (.inr stepped)
    exact orderly.of_jobs _ (map_collector_set found _)
  | exit i => exact orderly.exit stepped

/-- Over a run whose events are all allowed, from a safe state whose periods are all
positive, no event panics and every state is safe. -/
theorem Safe.run {s : Scheduler} {events : List SchedulerEvent} (safe : Safe s) (periodic : Periodic jitter s)
    (ticking : ∀ k, 0 < int64Wrap (s.interval + jitter k)) (allowed : EveryStep jitter Allowed s events) :
    (∀ message, s.run jitter events ≠ .panic message) ∧ ∀ s', s.run jitter events = .next s' → Safe s' := by
  induction events generalizing s with
  | nil => exact ⟨fun _ ended => (by cases ended), fun s' ended => by cases ended; exact safe⟩
  | cons event rest ih =>
      obtain ⟨now, later⟩ := allowed
      have positive : ∀ job ∈ s.jobs, 0 < job.period := fun job member => by
        obtain ⟨k, period⟩ := periodic.jobs job member
        exact period ▸ ticking k
      unfold Scheduler.run
      cases stepped : s.step jitter event with
      | next s' =>
          simp only [stepped] at later ⊢
          obtain ⟨interval, periodic'⟩ := periodic.step stepped
          exact ih (safe.step now stepped) periodic' (interval ▸ ticking) later
      | panic message => exact absurd stepped (safe.step_ne_panic positive message)
      | disabled => exact ⟨fun _ ended => (by cases ended), fun _ ended => by cases ended⟩

/-- Over a run whose events are all allowed and steady, every state is orderly. -/
theorem Orderly.run {s s' : Scheduler} {events : List SchedulerEvent} (orderly : Orderly s)
    (allowed : EveryStep jitter Allowed s events) (steady : EveryStep jitter Steady s events)
    (ran : s.run jitter events = .next s') : Orderly s' := by
  induction events generalizing s with
  | nil => cases ran; exact orderly
  | cons event rest ih =>
      obtain ⟨now, later⟩ := allowed
      obtain ⟨calm, calmer⟩ := steady
      unfold Scheduler.run at ran
      cases stepped : s.step jitter event with
      | next s'' =>
          simp only [stepped] at later calmer ran
          exact ih (orderly.step now calm stepped) later calmer ran
      | panic message => simp [stepped] at ran
      | disabled => simp [stepped] at ran

/-- Scheduler lifecycle without a restart. From `New` with distinct collectors, with every
collector's ticker period (the collection interval plus a jitter sample) positive, over every
interleaving of allowed calls (no `Start` after an effective `Stop`, no second registration of
a collector, no `Stop` that times out), cancellations and job steps: no event panics; the
collectors of the jobs inside `runCollector` are pairwise distinct; and while the scheduler is
not running no job can start a collection. When besides no context is cancelled and
`RemoveCollector` is called only while stopped, while the scheduler runs outside `Stop` each
registered collector has exactly one job and every job's collector is registered. -/
theorem lifecycle_without_restart (cfg : Config) (collectors : List Collector) (distinct : collectors.Nodup)
    (jitter : Nat → Int) (ticking : ∀ k, 0 < cfg.actualInterval (jitter k)) (events : List SchedulerEvent)
    (allowed : EveryStep jitter Allowed (new cfg collectors) events) :
    (∀ message, (new cfg collectors).run jitter events ≠ .panic message) ∧
      ∀ s, (new cfg collectors).run jitter events = .next s →
        (EveryStep jitter Steady (new cfg collectors) events → s.running = true → s.stopping = false →
          (∀ c ∈ s.collectors, (s.jobs.map Job.collector).count c = 1) ∧
            ∀ job ∈ s.jobs, job.collector ∈ s.collectors) ∧
        ((s.jobs.filter (·.phase = .collecting)).map Job.collector).Nodup ∧
        (s.running = false → ∀ i, s.step jitter (.collect i) = .disabled) := by
  have periodic : Periodic jitter (new cfg collectors) := ⟨by simp [new], by simp [new]⟩
  obtain ⟨noPanic, reached⟩ := (new_orderly cfg collectors distinct).toSafe.run periodic ticking allowed
  refine ⟨noPanic, fun s final => ⟨fun steady running free => ?_, ?_, fun stopped i => ?_⟩⟩
  · have orderly := (new_orderly cfg collectors distinct).run allowed steady final
    have open' : s.stopClosed = false := by
      cases closed : s.stopClosed
      · rfl
      · simp [(orderly.stopping_iff running).mpr closed] at free
    exact ⟨fun c member => List.count_eq_one_of_mem orderly.jobs_nodup
      (orderly.registered_jobs running open' c member),
      fun job member => orderly.jobs_registered _ (List.mem_map_of_mem _ member)⟩
  · exact ((List.filter_sublist _).map _).nodup (reached s final).jobs_nodup
  · simp [Scheduler.step, collect, ((reached s final).idle stopped).1]

theorem lifecycle_without_restart_cancelled :
    (∀ message, (new Config.loadedConfig [⟨1, "cpu"⟩]).run (fun _ => 0)
        [.start 0, .collect 0, .collected 0, .cancel 0, .exit 0, .stop, .stopReturns false] ≠ .panic message) ∧
      ∀ s, (new Config.loadedConfig [⟨1, "cpu"⟩]).run (fun _ => 0)
          [.start 0, .collect 0, .collected 0, .cancel 0, .exit 0, .stop, .stopReturns false] = .next s →
        (EveryStep (fun _ => 0) Steady (new Config.loadedConfig [⟨1, "cpu"⟩])
            [.start 0, .collect 0, .collected 0, .cancel 0, .exit 0, .stop, .stopReturns false] →
          s.running = true → s.stopping = false →
          (∀ c ∈ s.collectors, (s.jobs.map Job.collector).count c = 1) ∧
            ∀ job ∈ s.jobs, job.collector ∈ s.collectors) ∧
        ((s.jobs.filter (·.phase = .collecting)).map Job.collector).Nodup ∧
        (s.running = false → ∀ i, s.step (fun _ => 0) (.collect i) = .disabled) :=
  lifecycle_without_restart Config.loadedConfig [⟨1, "cpu"⟩] (by decide) (fun _ => 0)
    (fun _ => show 0 < Config.loadedConfig.actualInterval 0 by decide)
    [.start 0, .collect 0, .collected 0, .cancel 0, .exit 0, .stop, .stopReturns false] (by decide)

/-- Each restriction is needed. A restart makes the next `Stop` panic; so does a starting job
whose period overflows, as a validated configuration with the largest `int64` interval and a
+10% jitter sample gives; a second `AddCollector` of a registered collector runs it twice at
once; after a `Stop` whose wait timed out, a job starts a new collection; `RemoveCollector`
leaves a job whose collector is no longer registered; and a cancelled context leaves a running
scheduler with no job. -/
theorem lifecycle_breaks :
    (new Config.loadedConfig []).run (fun _ => 0) [.start 0, .stop, .stopReturns false, .start 0, .stop] =
        .panic "close of closed channel" ∧
      (new { Config.loadedConfig with collectionInterval := 2 ^ 63 - 1 } [⟨1, "cpu"⟩]).run
          (fun _ => (2 ^ 63 - 1) / 10) [.start 0, .collect 0] = .panic "non-positive interval for NewTicker" ∧
      (new Config.loadedConfig [⟨1, "cpu"⟩]).run (fun _ => 0)
          [.start 0, .addCollector ⟨1, "cpu"⟩, .collect 0, .collect 1] =
        .next ⟨60 * second, [⟨1, "cpu"⟩, ⟨1, "cpu"⟩], true, false, false,
          [⟨⟨1, "cpu"⟩, some 0, 60 * second, .collecting⟩, ⟨⟨1, "cpu"⟩, none, 60 * second, .collecting⟩], [],
          [(⟨1, "cpu"⟩, 60 * second), (⟨1, "cpu"⟩, 60 * second)]⟩ ∧
      (new Config.loadedConfig [⟨1, "cpu"⟩]).run (fun _ => 0)
          [.start 0, .collect 0, .stop, .stopReturns true, .collected 0, .collect 0] =
        .next ⟨60 * second, [⟨1, "cpu"⟩], false, true, false, [⟨⟨1, "cpu"⟩, some 0, 60 * second, .collecting⟩],
          [], [(⟨1, "cpu"⟩, 60 * second)]⟩ ∧
      (new Config.loadedConfig [⟨1, "cpu"⟩]).run (fun _ => 0) [.start 0, .removeCollector "cpu"] =
        .next ⟨60 * second, [], true, false, false, [⟨⟨1, "cpu"⟩, some 0, 60 * second, .booting⟩], [],
          [(⟨1, "cpu"⟩, 60 * second)]⟩ ∧
      (new Config.loadedConfig [⟨1, "cpu"⟩]).run (fun _ => 0)
          [.start 0, .cancel 0, .collect 0, .collected 0, .exit 0] =
        .next ⟨60 * second, [⟨1, "cpu"⟩], true, false, false, [], [0], [(⟨1, "cpu"⟩, 60 * second)]⟩ := by
  decide

end Scheduler

end EndpointAgent
