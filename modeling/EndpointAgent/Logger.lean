import EndpointAgent.Basic

/-!
# Logger with size-based rotation

`internal/logging` (`logger.go`). The log file at `logPath` and its backups `logPath.1`,
`logPath.2`, … are indexed by their suffix, index `0` being `logPath` itself; a present
file holds the texts appended to it, oldest first. The clock reading, the formatted
message and the outcome of every file-system call are inputs of a call.

`rotate` runs while `log` holds `l.mu`, and it ends with `l.Info("Log file rotated")`. That
call locks `l.mu` again unless the configured level filters it out, and `sync.Mutex` is not
reentrant: such a call never returns, which the model says with the outcome `blocked`.
-/

set_option autoImplicit false

namespace EndpointAgent

/-- `LogLevel`, ordered as its `iota` constants. -/
inductive LogLevel where
  | debug
  | info
  | warning
  | error
  | fatal
  deriving DecidableEq, Repr

namespace LogLevel

/-- The constant's value. -/
def toNat : LogLevel → Nat
  | debug => 0
  | info => 1
  | warning => 2
  | error => 3
  | fatal => 4

instance : LT LogLevel := ⟨fun a b => a.toNat < b.toNat⟩

instance (a b : LogLevel) : Decidable (a < b) := inferInstanceAs (Decidable (a.toNat < b.toNat))

/-- `levelNames`. -/
def name : LogLevel → String
  | debug => "DEBUG"
  | info => "INFO"
  | warning => "WARN"
  | error => "ERROR"
  | fatal => "FATAL"

end LogLevel

/-- `parseLevel`: a name it does not know gives `INFO`. -/
def parseLevel : String → LogLevel
  | "debug" => .debug
  | "info" => .info
  | "warning" | "warn" => .warning
  | "error" => .error
  | "fatal" => .fatal
  | _ => .info

/-- The log file (index `0`, `logPath`) and its backups (index `i`,
`fmt.Sprintf("%s.%d", logPath, i)`): what each present file holds. -/
abbrev LogFiles := Nat → Option (List String)

namespace LogFiles

/-- The bytes a file holds. -/
def contentSize (content : List String) : Nat := (content.map String.utf8ByteSize).sum

@[simp] theorem contentSize_nil : contentSize [] = 0 := rfl

@[simp] theorem contentSize_append (content more : List String) :
    contentSize (content ++ more) = contentSize content + contentSize more := by
  simp [contentSize]

@[simp] theorem contentSize_singleton (text : String) : contentSize [text] = text.utf8ByteSize := by
  simp [contentSize]

/-- `os.Rename(logPath.src, logPath.dst)`: when the source exists and the system does not
fail the call, the destination is replaced by it. Its error is ignored by the caller. -/
def rename (files : LogFiles) (src dst : Nat) (fails : Bool) : LogFiles :=
  match files src, fails with
  | some content, false => Function.update (Function.update files dst (some content)) src none
  | _, _ => files

/-- The loop `for i := maxBackups-1; i >= 1; i--` of `rotate`, renaming `logPath.i` to
`logPath.(i+1)`; `renameFails i` says whether the system fails the rename of `logPath.i`. -/
def shiftBackups (renameFails : Nat → Bool) : Nat → LogFiles → LogFiles
  | 0, files => files
  | i + 1, files => shiftBackups renameFails i (rename files (i + 1) (i + 2) (renameFails (i + 1)))

end LogFiles

/-- How the file-system calls of one `rotate` end: `renameFails i` for the rename whose
source is index `i`, and whether `os.OpenFile` of the new log fails. -/
structure RotateFaults where
  renameFails : Nat → Bool
  openFails : Bool

/-- Every rename and the open succeed. -/
def RotateFaults.none : RotateFaults := ⟨fun _ => false, false⟩

/-- `logging.Logger`. `fileOpen` says whether `l.file` is open: a rotation whose
`os.OpenFile` fails leaves the closed file in place, and writes to it are lost. -/
structure Logger where
  level : LogLevel
  maxSize : Int
  maxBackups : Int
  currentSize : Int
  fileOpen : Bool
  files : LogFiles

/-- How a call ends: it returns with the logger's new state, or it waits forever on a lock
its own goroutine holds. -/
inductive LogOutcome where
  | returned (l : Logger)
  | blocked

/-- `logging.Config`, without `LogPath`: the files are named by their index. -/
structure LoggerConfig where
  level : String
  maxSizeMB : Int
  maxBackups : Int

/-- `NewLogger(cfg)` over the files `files`: `mkdirAll`, `openFile` and `stat` are the
outcomes of `os.MkdirAll`, `os.OpenFile` and `file.Stat`. `maxSize` is the `int64` product
`int64(cfg.MaxSizeMB) * 1024 * 1024`, which wraps around. -/
def newLogger (cfg : LoggerConfig) (files : LogFiles) (mkdirAll openFile stat : Option GoError) :
    Except GoError Logger :=
  match mkdirAll, openFile, stat with
  | some err, _, _ => .error (err.wrap "failed to create log directory")
  | none, some err, _ => .error (err.wrap "failed to open log file")
  | none, none, some err => .error (err.wrap "failed to stat log file")
  | none, none, none =>
    .ok { level := parseLevel cfg.level
          maxSize := (cfg.maxSizeMB * 1024 * 1024).bmod (2 ^ 64)
          maxBackups := cfg.maxBackups
          currentSize := LogFiles.contentSize ((files 0).getD [])
          fileOpen := true
          files := Function.update files 0 (some ((files 0).getD [])) }

/-- One call of `Debug`, `Info`, `Warning` or `Error` (the `Printf`, `Print` and `Println`
wrappers and the standard-library adapter all call `Info`): the clock reading as
`2006-01-02 15:04:05`, the formatted message, and how the file-system calls of a rotation
it triggers end. -/
structure LogCall where
  level : LogLevel
  stamp : String
  message : String
  faults : RotateFaults

namespace Logger

/-- The text `log` writes for a call: `fmt.Sprintf("%s [%s] %s\n", ...)`. `log.Logger.Print`
adds no newline, since the text ends with one. -/
def logLine (call : LogCall) : String :=
  call.stamp ++ " [" ++ call.level.name ++ "] " ++ call.message ++ "\n"

/-- `l.logger.Print(logLine)` and `l.currentSize += len(logLine)`: the line reaches the file
only while it is open. -/
def append (l : Logger) (line : String) : Logger :=
  { l with
    currentSize := l.currentSize + line.utf8ByteSize
    files := if l.fileOpen then Function.update l.files 0 ((l.files 0).map (· ++ [line]))
      else l.files }

/-- `l.log(level, ...)` entered by a goroutine that already holds `l.mu`: a level below the
logger's returns at once; otherwise `l.mu.Lock()` waits for the caller itself. -/
def logWhileHeld (l : Logger) (level : LogLevel) : LogOutcome :=
  if level < l.level then .returned l else .blocked

/-- The renames of `rotate`: the backup loop, then `logPath` to `logPath.1`. -/
def rotateFiles (files : LogFiles) (maxBackups : Int) (faults : RotateFaults) : LogFiles :=
  LogFiles.rename (LogFiles.shiftBackups faults.renameFails (maxBackups - 1).toNat files) 0 1
    (faults.renameFails 0)

/-- `Logger.rotate`, called with `l.mu` held. `os.OpenFile` creates `logPath`, or appends
to it when its rename failed. -/
def rotate (l : Logger) (faults : RotateFaults) : LogOutcome :=
  let files := rotateFiles l.files l.maxBackups faults
  if faults.openFails then .returned { l with files, fileOpen := false }
  else
    logWhileHeld { l with files := Function.update files 0 (some ((files 0).getD []))
                          fileOpen := true
                          currentSize := 0 } .info

/-- `Logger.log`. -/
def log (l : Logger) (call : LogCall) : LogOutcome :=
  if call.level < l.level then .returned l
  else
    let l := l.append (logLine call)
    if l.currentSize ≥ l.maxSize then l.rotate call.faults else .returned l

/-- Calls made one after another; a call that never returns ends the run. -/
def run (l : Logger) : List LogCall → LogOutcome
  | [] => .returned l
  | call :: rest =>
    match l.log call with
    | .returned next => next.run rest
    | .blocked => .blocked

@[simp] theorem append_level (l : Logger) (line : String) : (l.append line).level = l.level := rfl

@[simp] theorem append_maxSize (l : Logger) (line : String) :
    (l.append line).maxSize = l.maxSize := rfl

@[simp] theorem append_maxBackups (l : Logger) (line : String) :
    (l.append line).maxBackups = l.maxBackups := rfl

@[simp] theorem append_currentSize (l : Logger) (line : String) :
    (l.append line).currentSize = l.currentSize + line.utf8ByteSize := rfl

/-! ## Which calls return -/

/-- Every way a rotation can return: its open fails and the file stays closed, or the
new log opens and the level filters out the `Info` call made under the lock. -/
theorem rotate_cases {l l' : Logger} {faults : RotateFaults} (returned : l.rotate faults = .returned l') :
    (faults.openFails = true ∧
        l' = { l with files := rotateFiles l.files l.maxBackups faults, fileOpen := false }) ∨
      (faults.openFails = false ∧ LogLevel.info < l.level ∧
        l' = { l with files := Function.update (rotateFiles l.files l.maxBackups faults) 0
                        (some ((rotateFiles l.files l.maxBackups faults 0).getD []))
                      fileOpen := true
                      currentSize := 0 }) := by
  unfold rotate logWhileHeld at returned
  cases opens : faults.openFails
  · by_cases quiet : LogLevel.info < l.level
    · simp only [opens, quiet, Bool.false_eq_true, if_false, if_true, LogOutcome.returned.injEq] at returned
      exact .inr ⟨rfl, quiet, returned.symm⟩
    · simp [opens, quiet] at returned
  · simp only [opens, if_true, LogOutcome.returned.injEq] at returned
    exact .inl ⟨rfl, returned.symm⟩

/-- Every way a call can return: filtered out by the level, written without reaching
`maxSize`, or written and followed by a rotation that returns. -/
theorem log_cases {l l' : Logger} {call : LogCall} (returned : l.log call = .returned l') :
    (call.level < l.level ∧ l' = l) ∨
      (¬call.level < l.level ∧ (l.append (logLine call)).currentSize < l.maxSize ∧
        l' = l.append (logLine call)) ∨
      (¬call.level < l.level ∧ l.maxSize ≤ (l.append (logLine call)).currentSize ∧
        (l.append (logLine call)).rotate call.faults = .returned l') := by
  unfold log at returned
  dsimp only at returned
  split at returned
  · cases returned
    exact .inl ⟨‹_›, rfl⟩
  · rename_i passes
    split at returned
    · exact .inr (.inr ⟨passes, ‹_›, returned⟩)
    · cases returned
      exact .inr (.inl ⟨passes, lt_of_not_le ‹_›, rfl⟩)

/-- A call changes neither the level nor the size limit nor the number of backups. -/
theorem log_settings {l l' : Logger} {call : LogCall} (returned : l.log call = .returned l') :
    l'.level = l.level ∧ l'.maxSize = l.maxSize ∧ l'.maxBackups = l.maxBackups := by
  rcases log_cases returned with ⟨-, rfl⟩ | ⟨-, -, rfl⟩ | ⟨-, -, rotated⟩
  · exact ⟨rfl, rfl, rfl⟩
  · exact ⟨rfl, rfl, rfl⟩
  · rcases rotate_cases rotated with ⟨-, rfl⟩ | ⟨-, -, rfl⟩ <;> exact ⟨rfl, rfl, rfl⟩

/-- Calls that return change neither the level nor the size limit nor the number of backups. -/
theorem run_settings {l l' : Logger} {calls : List LogCall} (returned : l.run calls = .returned l') :
    l'.level = l.level ∧ l'.maxSize = l.maxSize ∧ l'.maxBackups = l.maxBackups := by
  induction calls generalizing l with
  | nil => cases returned; exact ⟨rfl, rfl, rfl⟩
  | cons call rest ih =>
      unfold run at returned
      split at returned
      · rename_i next logged
        obtain ⟨level, maxSize, maxBackups⟩ := log_settings logged
        obtain ⟨level', maxSize', maxBackups'⟩ := ih returned
        exact ⟨level'.trans level, maxSize'.trans maxSize, maxBackups'.trans maxBackups⟩
      · cases returned

/-- A rotation never returns exactly when the new log opens and the level lets the `Info`
call made under the lock through. -/
private theorem rotate_blocked_iff (l : Logger) (faults : RotateFaults) :
    l.rotate faults = .blocked ↔ faults.openFails = false ∧ ¬LogLevel.info < l.level := by
  unfold rotate logWhileHeld
  cases faults.openFails <;> by_cases quiet : LogLevel.info < l.level <;> simp [quiet]

/-- A call never returns exactly when it passes the level filter, takes the size to
`maxSize` or beyond, the new log opens, and the level lets `Info` through. -/
private theorem log_blocked_iff (l : Logger) (call : LogCall) :
    l.log call = .blocked ↔
      ¬call.level < l.level ∧ l.maxSize ≤ l.currentSize + (logLine call).utf8ByteSize ∧
        call.faults.openFails = false ∧ ¬LogLevel.info < l.level := by
  unfold log
  by_cases passes : call.level < l.level
  · simp [passes]
  · by_cases full : l.maxSize ≤ l.currentSize + (logLine call).utf8ByteSize
    · simp [passes, full, rotate_blocked_iff]
    · simp [passes, full]

/-- At a level above `INFO` every sequence of calls returns. -/
theorem run_returns_above_info (l : Logger) (calls : List LogCall) (quiet : LogLevel.info < l.level) :
    ∃ l', l.run calls = .returned l' := by
  induction calls generalizing l with
  | nil => exact ⟨l, rfl⟩
  | cons call rest ih =>
      cases logged : l.log call with
      | returned next =>
          simp only [run, logged]
          exact ih next ((log_settings logged).1 ▸ quiet)
      | blocked => exact absurd quiet ((log_blocked_iff l call).mp logged).2.2.2

theorem run_returns_above_info_warning :
    LogLevel.info < LogLevel.warning ∧
      ∃ l', ({ level := .warning, maxSize := 0, maxBackups := 1, currentSize := 0, fileOpen := true,
               files := fun _ => none } : Logger).run
          [⟨.error, "2024-01-15 10:30:00", "disk full", .none⟩] = .returned l' :=
  ⟨by decide, run_returns_above_info _ _ (by decide)⟩

/-- With `Level "info"` and `MaxSizeMB 0`, the first `Info` call rotates, and once the new
log opens it waits forever on `l.mu`. -/
theorem info_logger_first_call_blocks :
    ∃ l, newLogger ⟨"info", 0, 3⟩ (fun _ => none) none none none = .ok l ∧
      l.log ⟨.info, "2024-01-15 10:30:00", "Agent starting", .none⟩ = .blocked :=
  ⟨_, rfl, rfl⟩

end Logger

end EndpointAgent
