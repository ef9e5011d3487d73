import EndpointAgent.Logger

/-!
# What rotation keeps

Over a run whose renames and opens all succeed and whose calls all return, the log file and
its backups, read from the oldest backup to the current log, are a suffix of everything
the run wrote after the file's initial content: rotation only ever drops the oldest file.
No backup beyond `logPath.maxBackups` appears once `maxBackups ≥ 1`, and every file stays
below the size limit by less than one line, measured from the larger of the limit and the
initial file: `NewLogger` never rotates a log that is already too large.
-/

set_option autoImplicit false

namespace EndpointAgent

namespace LogFiles

/-- The files `logPath`, `logPath.1`, … holding `contents` in that order, and no others. -/
def ofList (contents : List (List String)) : LogFiles := fun i => contents[i]?

@[simp] theorem ofList_apply (contents : List (List String)) (i : Nat) :
    ofList contents i = contents[i]? := rfl

/-- A rename that the system does not fail moves the source over the destination. -/
private theorem rename_apply (files : LogFiles) {src dst : Nat} (j : Nat) (distinct : src ≠ dst) :
    rename files src dst false j =
      if j = src then none else if j = dst then (files src).or (files dst) else files j := by
  unfold rename
  cases moved : files src with
  | none => by_cases here : j = src <;> by_cases there : j = dst <;> simp_all
  | some content =>
      by_cases here : j = src
      · subst here; simp
      · by_cases there : j = dst <;> simp [Function.update_apply, here, there]

/-- The backup loop over `i + 1` iterations, when no rename fails: `logPath.1` is vacated,
every backup up to `logPath.(i+1)` moves one place up, and `logPath.(i+2)` is overwritten
when `logPath.(i+1)` exists. -/
private theorem shiftBackups_succ_apply (files : LogFiles) (i j : Nat) :
    shiftBackups (fun _ => false) (i + 1) files j =
      if j = 0 then files 0 else if j = 1 then none else if j ≤ i + 1 then files (j - 1)
      else if j = i + 2 then (files (i + 1)).or (files (i + 2)) else files j := by
  induction i generalizing files with
  | zero =>
      simp only [shiftBackups, rename_apply _ _ (show 1 ≠ 2 by decide)]
      split_ifs <;> first | rfl | omega | simp_all
  | succ i ih =>
      rw [shiftBackups, ih]
      simp only [rename_apply _ _ (show i + 2 ≠ i + 3 by omega)]
      by_cases first : j ≤ 1
      · rcases Nat.le_one_iff_eq_zero_or_eq_one.mp first with rfl | rfl <;> simp
      by_cases moved : j ≤ i + 1
      · simp [show j ≠ 0 by omega, show j ≠ 1 by omega, moved, show j ≤ i + 2 by omega,
          show j - 1 ≠ i + 2 by omega, show j - 1 ≠ i + 3 by omega]
      by_cases top : j = i + 2
      · subst top
        simp
      · have beyond : ¬j ≤ i + 2 := by omega
        by_cases next : j = i + 3
        · subst next
          simp
        · simp [show j ≠ 0 by omega, show j ≠ 1 by omega, moved, top, beyond, next]

/-- The renames of a rotation in which nothing fails, with `K = maxBackups - 1` loop
iterations: index `j` receives what index `j - 1` held, and the last one keeps its file
when nothing moves onto it. -/
private theorem rotateFiles_apply (files : LogFiles) (maxBackups : Int) (j : Nat) :
    Logger.rotateFiles files maxBackups .none j =
      if j = 0 then none else if j ≤ (maxBackups - 1).toNat then files (j - 1)
      else if j = (maxBackups - 1).toNat + 1 then
        (files (maxBackups - 1).toNat).or (files ((maxBackups - 1).toNat + 1))
      else files j := by
  unfold Logger.rotateFiles
  simp only [RotateFaults.none, rename_apply _ _ (show 0 ≠ 1 by decide)]
  cases iterations : (maxBackups - 1).toNat with
  | zero => by_cases zero : j = 0 <;> simp [zero, shiftBackups]
  | succ i =>
      simp only [shiftBackups_succ_apply]
      split_ifs <;> first | rfl | omega | simp_all

/-- A fault-free rotation of `current :: older` (at most `K + 2` files): the new log is empty
and the `K + 1` newest files move one place up, so the oldest one beyond them is dropped. -/
private theorem reopen_ofList (current : List String) (older : List (List String)) (maxBackups : Int)
    (fits : older.length ≤ (maxBackups - 1).toNat + 1) :
    Function.update (Logger.rotateFiles (ofList (current :: older)) maxBackups .none) 0
        (some ((Logger.rotateFiles (ofList (current :: older)) maxBackups .none 0).getD [])) =
      ofList ([] :: (current :: older).take ((maxBackups - 1).toNat + 1)) := by
  funext j
  simp only [Function.update_apply, rotateFiles_apply, ofList_apply]
  rcases j with _ | j
  · rfl
  · simp only [Nat.add_one_ne_zero, if_false, List.getElem?_cons_succ, Nat.add_sub_cancel]
    split_ifs with inside last
    · rw [List.getElem?_take_of_lt (by omega)]
    · obtain rfl : j = (maxBackups - 1).toNat := by omega
      rw [List.getElem?_take_of_lt (by omega)]
      cases present : (current :: older)[(maxBackups - 1).toNat]? with
      | some content => rfl
      | none =>
          have short := List.getElem?_eq_none_iff.mp present
          simp only [List.length_cons] at short
          rw [List.getElem?_eq_none (show older.length ≤ (maxBackups - 1).toNat by omega)]
          rfl
    · rw [List.getElem?_eq_none (by omega), List.getElem?_eq_none (by simp; omega)]

end LogFiles

end EndpointAgent

namespace EndpointAgent

namespace LogFiles

/-- Reading `logPath.n`, …, `logPath.1`, `logPath` in that order; a missing file reads as
nothing. -/
def readBack (files : LogFiles) : Nat → List String
  | 0 => (files 0).getD []
  | n + 1 => (files (n + 1)).getD [] ++ readBack files n

private theorem readBack_ofList (contents : List (List String)) (n : Nat) :
    readBack (ofList contents) n = (contents.take (n + 1)).reverse.flatten := by
  induction n with
  | zero => cases contents <;> simp [readBack]
  | succ n ih =>
      rw [readBack, ih, List.take_succ (n := n + 1)]
      cases present : contents[n + 1]? <;> simp [present]

/-- The files a prefix of `contents` names, read oldest first, end what `contents` holds. -/
private theorem take_suffix (contents : List (List String)) (n : Nat) :
    (contents.take n).reverse.flatten <:+ contents.reverse.flatten := by
  conv_rhs => rw [← List.take_append_drop n contents, List.reverse_append, List.flatten_append]
  exact List.suffix_append _ _

end LogFiles

namespace Logger

/-- The lines a sequence of calls writes at the level `level`. -/
def writtenLines (level : LogLevel) (calls : List LogCall) : List String :=
  (calls.filter fun call => ¬call.level < level).map logLine

private theorem writtenLines_cons (level : LogLevel) (call : LogCall) (calls : List LogCall) :
    writtenLines level (call :: calls) = writtenLines level [call] ++ writtenLines level calls := by
  by_cases passes : call.level < level <;> simp [writtenLines, List.filter_cons, passes]

/-- What a fault-free run keeps: the current log holds `current` and the backups
`logPath.1`, `logPath.2`, … hold `older`; read back oldest first they end `history`; the
counter is the size of the open current log and below `ceiling`; and every backup holds
fewer than `ceiling + longest` bytes. -/
structure Rotated (l : Logger) (current : List String) (older : List (List String))
    (history : List String) (ceiling : Int) (longest : Nat) : Prop where
  files_eq : l.files = LogFiles.ofList (current :: older)
  older_length : older.length ≤ (l.maxBackups - 1).toNat + 1
  suffix : (current :: older).reverse.flatten <:+ history
  fileOpen : l.fileOpen = true
  currentSize_eq : l.currentSize = LogFiles.contentSize current
  currentSize_lt : l.currentSize < ceiling
  older_lt : ∀ content ∈ older, LogFiles.contentSize content < ceiling + longest

private theorem append_files {l : Logger} {current : List String} {older : List (List String)}
    (files : l.files = LogFiles.ofList (current :: older)) (opened : l.fileOpen = true)
    (line : String) : (l.append line).files = LogFiles.ofList ((current ++ [line]) :: older) := by
  funext j
  cases j <;> simp [append, opened, files, Function.update_apply]

/-- One call of a fault-free run keeps `Rotated`, with its line added to the history. -/
theorem Rotated.log {l l' : Logger} {call : LogCall} {current : List String}
    {older : List (List String)} {history : List String} {ceiling : Int} {longest : Nat}
    (kept : Rotated l current older history ceiling longest) (returned : l.log call = .returned l')
    (faultless : call.faults = .none) (positive : 0 < l.maxSize) (limit : l.maxSize ≤ ceiling)
    (short : ¬call.level < l.level → (logLine call).utf8ByteSize ≤ longest) :
    ∃ current' older', Rotated l' current' older' (history ++ writtenLines l.level [call])
      ceiling longest := by
  rcases log_cases returned with ⟨filtered, rfl⟩ | ⟨passes, below, rfl⟩ | ⟨passes, full, rotated⟩
  · exact ⟨current, older, by simpa [writtenLines, filtered] using kept⟩
  · have grown : ((current ++ [logLine call]) :: older).reverse.flatten =
        (current :: older).reverse.flatten ++ [logLine call] := by simp
    obtain ⟨before, history_eq⟩ := kept.suffix
    refine ⟨current ++ [logLine call], older,
      ⟨append_files kept.files_eq kept.fileOpen _, kept.older_length, ?_, kept.fileOpen, ?_, ?_,
        kept.older_lt⟩⟩
    · exact ⟨before, by simp [writtenLines, passes, grown, ← history_eq]⟩
    · simp [kept.currentSize_eq]
    · exact lt_of_lt_of_le below limit
  · rw [faultless] at rotated
    rcases rotate_cases rotated with ⟨opens, -⟩ | ⟨-, -, rfl⟩
    · cases opens
    · have grown := append_files kept.files_eq kept.fileOpen (logLine call)
      have line_short := short passes
      obtain ⟨before, history_eq⟩ := kept.suffix
      refine ⟨[], ((current ++ [logLine call]) :: older).take ((l.maxBackups - 1).toNat + 1),
        ⟨?_, List.length_take_le _ _, ?_, rfl, rfl, ?_, ?_⟩⟩
      · simp only [grown, append_maxBackups]
        exact LogFiles.reopen_ofList _ _ _ kept.older_length
      · have whole : ((current ++ [logLine call]) :: older).reverse.flatten <:+
            history ++ writtenLines l.level [call] :=
          ⟨before, by simp [writtenLines, passes, ← history_eq]⟩
        rw [List.reverse_cons, List.flatten_append, List.flatten_singleton, List.append_nil]
        exact (LogFiles.take_suffix _ _).trans whole
      · simpa using lt_of_lt_of_le positive limit
      · intro content member
        rcases List.mem_cons.mp (List.mem_of_mem_take member) with rfl | older_member
        · have := kept.currentSize_lt
          simp only [LogFiles.contentSize_append, LogFiles.contentSize_singleton, Nat.cast_add,
            ← kept.currentSize_eq]
          omega
        · exact kept.older_lt content older_member

/-- A fault-free run whose calls all return keeps `Rotated`, with every written line added
to the history in order. -/
theorem Rotated.run {l l' : Logger} {calls : List LogCall} {current : List String}
    {older : List (List String)} {history : List String} {ceiling : Int} {longest : Nat}
    (kept : Rotated l current older history ceiling longest) (returned : l.run calls = .returned l')
    (faultless : ∀ call ∈ calls, call.faults = .none) (positive : 0 < l.maxSize)
    (limit : l.maxSize ≤ ceiling)
    (short : ∀ line ∈ writtenLines l.level calls, line.utf8ByteSize ≤ longest) :
    ∃ current' older', Rotated l' current' older' (history ++ writtenLines l.level calls)
      ceiling longest := by
  induction calls generalizing l current older history with
  | nil => cases returned; exact ⟨current, older, by simpa [writtenLines] using kept⟩
  | cons call rest ih =>
      unfold Logger.run at returned
      split at returned
      · rename_i next logged
        obtain ⟨level, maxSize, -⟩ := log_settings logged
        rw [writtenLines_cons] at short ⊢
        obtain ⟨current', older', kept'⟩ := kept.log logged (faultless call (List.mem_cons_self _ _))
          positive limit fun passes => short _ (List.mem_append_left _ (by simp [writtenLines, passes]))
        obtain ⟨current'', older'', kept''⟩ := ih kept' returned
          (fun call member => faultless call (List.mem_cons_of_mem _ member)) (maxSize ▸ positive)
          (maxSize ▸ limit) (fun line member => short line (List.mem_append_right _ (level ▸ member)))
        exact ⟨current'', older'', by simpa [level] using kept''⟩
      · cases returned

/-- A written call that reaches `maxSize` moves the whole current log, the new line included,
to `logPath.1`, and leaves an empty log open. -/
private theorem log_full_backup {l : Logger} {call : LogCall} {content : List String}
    (opened : l.fileOpen = true) (stored : l.files 0 = some content)
    (passes : ¬call.level < l.level) (full : l.maxSize ≤ l.currentSize + (logLine call).utf8ByteSize)
    (faultless : call.faults = .none) (quiet : LogLevel.info < l.level) :
    ∃ l', l.log call = .returned l' ∧ l'.files 1 = some (content ++ [logLine call]) ∧
      l'.files 0 = some [] ∧ l'.currentSize = 0 ∧ l'.fileOpen = true := by
  refine ⟨{ l with
      files := Function.update (rotateFiles (l.append (logLine call)).files l.maxBackups .none) 0
        (some ((rotateFiles (l.append (logLine call)).files l.maxBackups .none 0).getD []))
      fileOpen := true
      currentSize := 0 }, ?_, ?_, ?_, rfl, rfl⟩
  · unfold log rotate logWhileHeld
    simp only [if_neg passes, append_currentSize, append_maxSize, ge_iff_le, if_pos full,
      faultless, RotateFaults.none, Bool.false_eq_true, if_false, append_level, if_pos quiet,
      append_maxBackups]
  · have moved : (l.append (logLine call)).files 0 = some (content ++ [logLine call]) := by
      simp [append, opened, stored]
    dsimp only
    rw [Function.update_apply, if_neg one_ne_zero, LogFiles.rotateFiles_apply, if_neg one_ne_zero]
    by_cases shifted : 1 ≤ (l.maxBackups - 1).toNat
    · rw [if_pos shifted, moved]
    · rw [if_neg shifted, if_pos (by omega), show (l.maxBackups - 1).toNat = 0 by omega, moved]
      rfl
  · simp [LogFiles.rotateFiles_apply]

/-- A written call that stays below `maxSize` only appends its line. -/
private theorem log_room {l : Logger} {call : LogCall} (passes : ¬call.level < l.level)
    (room : l.currentSize + (logLine call).utf8ByteSize < l.maxSize) :
    l.log call = .returned (l.append (logLine call)) := by
  unfold log
  simp only [if_neg passes, append_currentSize, append_maxSize, ge_iff_le, if_neg (not_le.mpr room)]

private theorem utf8ByteSize_replicate (n : Nat) :
    (String.mk (List.replicate n 'x')).utf8ByteSize = n := by
  show String.utf8ByteSize.go _ = n
  induction n with
  | zero => rfl
  | succ n ih => rw [List.replicate_succ, String.utf8ByteSize.go, ih]; rfl

/-- Two backups and a log that already holds `MaxSizeMB` worth of bytes: the first warning
rotates the log, with the warning, to `logPath.1`, and the error after it opens the new log. -/
private theorem rotating_run (big : String) (size : big.utf8ByteSize = 1048576) {l₀ : Logger}
    (created : newLogger ⟨"warning", 1, 2⟩ (LogFiles.ofList [[big]]) none none none = .ok l₀) :
    ∃ l, l₀.run [⟨.warning, "2024-01-15 10:30:00", "rotated", .none⟩,
        ⟨.error, "2024-01-15 10:30:01", "collector failed", .none⟩] = .returned l ∧
      l.files 1 = some [big, logLine ⟨.warning, "2024-01-15 10:30:00", "rotated", .none⟩] ∧
      l.files 0 = some [logLine ⟨.error, "2024-01-15 10:30:01", "collector failed", .none⟩] := by
  have started : l₀.level = parseLevel "warning" ∧ l₀.maxSize = 1048576 ∧
      l₀.currentSize = 1048576 ∧ l₀.fileOpen = true ∧ l₀.files 0 = some [big] := by
    simp only [newLogger, Except.ok.injEq] at created
    subst created
    simp [size]
  obtain ⟨level, limit, current, opened, stored⟩ := started
  obtain ⟨l₁, logged, backup, fresh, empty, opened⟩ := @log_full_backup _
    ⟨.warning, "2024-01-15 10:30:00", "rotated", .none⟩ _ opened stored
    (by rw [level]; decide) (by rw [limit, current]; omega) rfl (by rw [level]; decide)
  obtain ⟨level', limit', -⟩ := log_settings logged
  refine ⟨l₁.append (logLine ⟨.error, "2024-01-15 10:30:01", "collector failed", .none⟩), ?_, ?_, ?_⟩
  · have line : (logLine ⟨.error, "2024-01-15 10:30:01", "collector failed", .none⟩).utf8ByteSize ≤ 100 := by
      decide
    simp only [run, logged, @log_room l₁ ⟨.error, "2024-01-15 10:30:01", "collector failed", .none⟩
      (by rw [level', level]; decide) (by rw [empty, limit', limit]; omega)]
  · simp [append, opened, backup]
  · simp [append, opened, fresh]

/-- Log rotation. From a log file holding `initial` and no backups, in a run whose renames
and opens all succeed and whose calls all return, after every call: reading
`logPath.maxBackups`, …, `logPath.1`, `logPath` gives a suffix of `initial` followed by the
lines written, in order; once `maxBackups ≥ 1` no backup beyond `logPath.maxBackups`
exists; and every file holds fewer than `max(maxSize, |initial| + 1) + ℓ` bytes, `ℓ`
bounding the written lines. -/
theorem rotation_keeps_order (cfg : LoggerConfig) (disk : LogFiles) (l₀ l : Logger)
    (noBackups : ∀ k, disk (k + 1) = none)
    (created : newLogger cfg disk none none none = .ok l₀) (positive : 0 < l₀.maxSize)
    (calls : List LogCall) (faultless : ∀ call ∈ calls, call.faults = .none)
    (returned : l₀.run calls = .returned l) (longest : Nat)
    (short : ∀ line ∈ writtenLines l₀.level calls, line.utf8ByteSize ≤ longest) :
    LogFiles.readBack l.files cfg.maxBackups.toNat <:+
        (disk 0).getD [] ++ writtenLines l₀.level calls ∧
      (1 ≤ cfg.maxBackups → ∀ k : Nat, cfg.maxBackups < k → l.files k = none) ∧
      ∀ k content, l.files k = some content →
        LogFiles.contentSize content <
          max l₀.maxSize (LogFiles.contentSize ((disk 0).getD []) + 1) + longest := by
  simp only [newLogger, Except.ok.injEq] at created
  have start : Rotated l₀ ((disk 0).getD []) [] ((disk 0).getD [])
      (max l₀.maxSize (LogFiles.contentSize ((disk 0).getD []) + 1)) longest := by
    subst created
    refine ⟨?_, by simp, by simp, rfl, rfl, ?_, by simp⟩
    · funext j
      cases j <;> simp [Function.update_apply, noBackups]
    · exact lt_of_lt_of_le (by simp) (le_max_right _ _)
  obtain ⟨-, -, maxBackups⟩ := run_settings returned
  have configured : l₀.maxBackups = cfg.maxBackups := by rw [← created]
  obtain ⟨current, older, kept⟩ := start.run returned faultless positive (le_max_left _ _) short
  have files := kept.files_eq
  refine ⟨?_, ?_, ?_⟩
  · rw [files, LogFiles.readBack_ofList]
    exact (LogFiles.take_suffix _ _).trans kept.suffix
  · intro backups k beyond
    have := kept.older_length
    rw [maxBackups, configured] at this
    rw [files, LogFiles.ofList_apply, List.getElem?_eq_none (by simp; omega)]
  · intro k content stored
    rw [files, LogFiles.ofList_apply] at stored
    rcases k with _ | k
    · simp only [List.getElem?_cons_zero, Option.some.injEq] at stored
      subst stored
      have := kept.currentSize_lt
      rw [kept.currentSize_eq] at this
      omega
    · exact lt_of_lt_of_le (kept.older_lt content (List.getElem?_mem (by simpa using stored)))
        (by omega)

theorem rotation_keeps_order_rotating :
    ∃ l₀ l, newLogger ⟨"warning", 1, 2⟩ (LogFiles.ofList [[⟨List.replicate 1048576 'x'⟩]])
        none none none = .ok l₀ ∧
      l₀.run [⟨.warning, "2024-01-15 10:30:00", "rotated", .none⟩,
        ⟨.error, "2024-01-15 10:30:01", "collector failed", .none⟩] = .returned l ∧
      l.files 1 = some [⟨List.replicate 1048576 'x'⟩,
        logLine ⟨.warning, "2024-01-15 10:30:00", "rotated", .none⟩] ∧
      l.files 0 = some [logLine ⟨.error, "2024-01-15 10:30:01", "collector failed", .none⟩] ∧
      (LogFiles.readBack l.files (2 : Int).toNat <:+
          (LogFiles.ofList [[⟨List.replicate 1048576 'x'⟩]] 0).getD [] ++
            writtenLines l₀.level [⟨.warning, "2024-01-15 10:30:00", "rotated", .none⟩,
              ⟨.error, "2024-01-15 10:30:01", "collector failed", .none⟩] ∧
        (1 ≤ (2 : Int) → ∀ k : Nat, (2 : Int) < k → l.files k = none) ∧
        ∀ k content, l.files k = some content →
          LogFiles.contentSize content <
            max l₀.maxSize
              (LogFiles.contentSize ((LogFiles.ofList [[⟨List.replicate 1048576 'x'⟩]] 0).getD []) + 1) +
              100) := by
  obtain ⟨l₀, created⟩ : ∃ l₀, newLogger ⟨"warning", 1, 2⟩
      (LogFiles.ofList [[⟨List.replicate 1048576 'x'⟩]]) none none none = .ok l₀ := ⟨_, rfl⟩
  obtain ⟨l, returned, backup, current⟩ := rotating_run _ (utf8ByteSize_replicate _) created
  have settings : l₀.level = parseLevel "warning" ∧ 0 < l₀.maxSize := by
    simp only [newLogger, Except.ok.injEq] at created
    subst created
    decide
  exact ⟨l₀, l, created, returned, backup, current, rotation_keeps_order ⟨"warning", 1, 2⟩ _ l₀ l
    (fun _ => rfl) created settings.2 _ (by simp) returned 100 (by rw [settings.1]; decide)⟩

private theorem full_log_without_backups (big : String) (size : big.utf8ByteSize = 1048576) :
    ∃ l₀ l, newLogger ⟨"warning", 1, 0⟩ (LogFiles.ofList [[big]]) none none none = .ok l₀ ∧
      l₀.run [⟨.warning, "2024-01-15 10:30:00", "rotated", .none⟩] = .returned l ∧
      l.files 1 = some [big, logLine ⟨.warning, "2024-01-15 10:30:00", "rotated", .none⟩] ∧
      l₀.maxSize + (logLine ⟨.warning, "2024-01-15 10:30:00", "rotated", .none⟩).utf8ByteSize ≤
        LogFiles.contentSize [big, logLine ⟨.warning, "2024-01-15 10:30:00", "rotated", .none⟩] := by
  have maxSize : ((1 : Int) * 1024 * 1024).bmod (2 ^ 64) = 1048576 := by decide
  obtain ⟨l, logged, backup, -⟩ := @log_full_backup
    { level := parseLevel "warning", maxSize := ((1 : Int) * 1024 * 1024).bmod (2 ^ 64)
      maxBackups := 0
      currentSize := LogFiles.contentSize [big]
      fileOpen := true
      files := Function.update (LogFiles.ofList [[big]]) 0 (some [big]) }
    ⟨.warning, "2024-01-15 10:30:00", "rotated", .none⟩ [big] rfl (by simp)
    (show ¬LogLevel.warning < parseLevel "warning" by decide)
    (by simp only [maxSize, LogFiles.contentSize_singleton, size]; omega) rfl
    (show LogLevel.info < parseLevel "warning" by decide)
  refine ⟨_, l, rfl, ?_, backup, by simp [LogFiles.contentSize, maxSize, size]⟩
  simp only [run, LogFiles.ofList_apply, List.getElem?_cons_zero, Option.getD_some, logged]

/-- `MaxBackups 0` and a log that already holds `MaxSizeMB` worth of bytes: the first line
written rotates the log to `logPath.1`, a backup beyond `maxBackups`, which then holds the
old log and the line, `maxSize` plus the longest line. -/
theorem rotation_without_backups_keeps_one :
    ∃ l₀ l, newLogger ⟨"warning", 1, 0⟩ (LogFiles.ofList [[⟨List.replicate 1048576 'x'⟩]])
        none none none = .ok l₀ ∧
      l₀.run [⟨.warning, "2024-01-15 10:30:00", "rotated", .none⟩] = .returned l ∧
      l.files 1 = some [⟨List.replicate 1048576 'x'⟩,
        logLine ⟨.warning, "2024-01-15 10:30:00", "rotated", .none⟩] ∧
      l₀.maxSize + (logLine ⟨.warning, "2024-01-15 10:30:00", "rotated", .none⟩).utf8ByteSize ≤
        LogFiles.contentSize [⟨List.replicate 1048576 'x'⟩,
          logLine ⟨.warning, "2024-01-15 10:30:00", "rotated", .none⟩] :=
  full_log_without_backups _ (utf8ByteSize_replicate _)

end Logger

end EndpointAgent
