import EndpointAgent.Logger

/-!
# After a rotation fails to open the new log

When the `os.OpenFile` of `rotate` fails, `rotate` has already closed `l.file` and returns
without resetting `l.currentSize` or the writer. The logger is left closed with its counter at
or above the limit. Every later call that passes the level filter writes its line to the closed
file, so the line reaches no file on disk. It then rotates again, and its renames move the
backups one place up. Until an open succeeds, the files change only by these renames.
-/

set_option autoImplicit false

namespace EndpointAgent

namespace Logger

/-- The state a failed open leaves: the file closed and the counter at or above the limit. -/
def Stuck (l : Logger) : Prop := l.fileOpen = false ∧ l.maxSize ≤ l.currentSize

/-- The files after some calls of a stuck logger: each call that passes the level filter
applies the renames of one rotation, and nothing else changes them. -/
def renamesOf (level : LogLevel) (maxBackups : Int) (files : LogFiles) (calls : List LogCall) : LogFiles :=
  calls.foldl (fun files call => if call.level < level then files else rotateFiles files maxBackups call.faults) files

/-- A call that rotates and whose open fails leaves the logger stuck. -/
private theorem log_stuck_of_openFails {l : Logger} {call : LogCall} (passes : ¬call.level < l.level)
    (full : l.maxSize ≤ l.currentSize + (logLine call).utf8ByteSize) (openFails : call.faults.openFails = true) :
    l.log call = .returned { l.append (logLine call) with
        files := rotateFiles (l.append (logLine call)).files l.maxBackups call.faults, fileOpen := false } := by
  simp only [log, if_neg passes, append_currentSize, append_maxSize, ge_iff_le, if_pos full, rotate, openFails,
    if_true, append_maxBackups]

/-- One call of a stuck logger: a line that passes the level filter reaches no file, and when
the open fails again the logger stays stuck with its files only renamed. -/
private theorem log_of_stuck {l : Logger} (stuck : l.Stuck) {call : LogCall} (openFails : call.faults.openFails = true) :
    ∃ l', l.log call = .returned l' ∧ l'.Stuck ∧ l'.level = l.level ∧ l'.maxBackups = l.maxBackups ∧
      l'.files = if call.level < l.level then l.files else rotateFiles l.files l.maxBackups call.faults := by
  by_cases passes : call.level < l.level
  · exact ⟨l, by simp [log, passes], stuck, rfl, rfl, by simp [passes]⟩
  · have full : l.maxSize ≤ l.currentSize + (logLine call).utf8ByteSize := by
      have := stuck.2
      omega
    have unwritten : (l.append (logLine call)).files = l.files := by simp [append, stuck.1]
    refine ⟨_, log_stuck_of_openFails passes full openFails, ⟨rfl, ?_⟩, rfl, rfl, ?_⟩
    · simpa using full
    · rw [if_neg passes, unwritten]

/-- A stuck logger whose opens keep failing loses every line: each call returns, the logger
stays stuck, and its files are the old ones with one rotation's renames per call that passes
the level filter, moving the backups up each time. -/
theorem stuck_logger_loses_lines (l : Logger) (stuck : l.Stuck) (calls : List LogCall)
    (failing : ∀ call ∈ calls, call.faults.openFails = true) :
    ∃ l', l.run calls = .returned l' ∧ l'.Stuck ∧ l'.files = renamesOf l.level l.maxBackups l.files calls := by
  induction calls generalizing l with
  | nil => exact ⟨l, rfl, stuck, rfl⟩
  | cons call calls ih =>
    obtain ⟨next, logged, stuck', level, backups, files⟩ := log_of_stuck stuck (failing call (List.mem_cons_self _ _))
    obtain ⟨l', ran, stuck'', files'⟩ := ih next stuck' fun c mem => failing c (List.mem_cons_of_mem _ mem)
    refine ⟨l', by rw [run, logged]; exact ran, stuck'', ?_⟩
    rw [files', level, backups, files]
    rfl

/-- A logger at `WARN` whose last rotation moved `logPath` to `logPath.1` and could not open a
new log: `logPath.1` and `logPath.2` hold one line each, and three backups are kept. -/
def stuckLogger : Logger where
  level := .warning
  maxSize := 10
  maxBackups := 3
  currentSize := 12
  fileOpen := false
  files := fun i => if i = 1 then some ["old 1\n"] else if i = 2 then some ["old 2\n"] else none

/-- A warning logged while the disk stays full: the renames succeed and the open fails. -/
def diskFullWarning : LogCall := ⟨.warning, "2024-01-15 10:30:00", "disk full", ⟨fun _ => false, true⟩⟩

/-- The warning reaches no file, and the backups move up: `logPath.1` is gone and its line is
now in `logPath.2`, whose line moved to `logPath.3`. -/
theorem stuck_logger_loses_lines_warning :
    (∃ l', stuckLogger.run [diskFullWarning] = .returned l' ∧ l'.Stuck ∧
      l'.files = renamesOf stuckLogger.level stuckLogger.maxBackups stuckLogger.files [diskFullWarning]) ∧
      renamesOf stuckLogger.level stuckLogger.maxBackups stuckLogger.files [diskFullWarning] 0 = none ∧
      renamesOf stuckLogger.level stuckLogger.maxBackups stuckLogger.files [diskFullWarning] 1 = none ∧
      renamesOf stuckLogger.level stuckLogger.maxBackups stuckLogger.files [diskFullWarning] 2 = some ["old 1\n"] ∧
      renamesOf stuckLogger.level stuckLogger.maxBackups stuckLogger.files [diskFullWarning] 3 = some ["old 2\n"] :=
  ⟨stuck_logger_loses_lines stuckLogger ⟨rfl, by decide⟩ [diskFullWarning] (by simp [diskFullWarning]),
    by decide, by decide, by decide, by decide⟩

end Logger

end EndpointAgent
