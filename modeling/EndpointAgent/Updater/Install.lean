import EndpointAgent.Updater

/-!
# What the updater installs and what the swap leaves

A binary whose checksum matches is installed whatever its signature: `PerformUpdate` returns nil
with the binary at the executable's path, and changing `metadata.Signature` changes nothing of
the run. The swap keeps an executable in place under most failures. The one exception for
`InstallUpdate` is a failed install rename followed by a failed rename back. For `Rollback`
it is a failed rename after the current binary was removed.
-/

set_option autoImplicit false

namespace EndpointAgent

namespace UpdateWorld

variable {env : UpdateEnv}

@[simp] theorem next_files (w : UpdateWorld) : w.next.files = w.files := rfl

@[simp] theorem next_calls (w : UpdateWorld) : w.next.calls = w.calls + 1 := rfl

/-- Every `os.Remove` leaves the other files alone. -/
theorem remove_files_of_ne (w : UpdateWorld) {path other : String} (differs : other ≠ path) :
    (w.remove env path).2.files other = w.files other := by
  unfold remove
  split <;> simp [Function.update_noteq differs]

private theorem chmod_files (w : UpdateWorld) (path : String) : (w.chmod env path).2.files = w.files := by
  unfold chmod
  split <;> rfl

end UpdateWorld

/-- A backup path is never the executable's own. -/
private theorem backup_ne (current : String) : current ++ ".old" ≠ current := by
  intro same
  have := congrArg String.length same
  simp only [String.length_append, Nat.add_right_eq_self] at this
  exact absurd this (by decide)

namespace Updater

/-! ## The swap -/

section Swap

variable {env : UpdateEnv} {w : UpdateWorld} {current newPath : String} {old : Bytes} {err err' : GoError}

/-- `InstallUpdate` whose install rename fails after the backup rename succeeded, and whose
rename back fails too: it returns the install error and leaves the original binary only at the
backup path. -/
private theorem installUpdate_unrestored (exe : env.executable = .ok current) (present : w.files current = some old)
    (first : env.fault w.calls = none) (second : env.fault (w.calls + 1) = some err)
    (third : env.fault (w.calls + 2) = some err') :
    (installUpdate env newPath w).1 = .error (err.wrap "failed to install new binary") ∧
      (installUpdate env newPath w).2.files current = none ∧
      (installUpdate env newPath w).2.files (current ++ ".old") = some old := by
  have third : env.fault (w.calls + 1 + 1) = some err' := third
  simp [installUpdate, exe, UpdateWorld.rename, first, second, third, present, (backup_ne current).symm]

/-- `Rollback` whose removal of the current binary succeeds and whose rename of the backup
fails: it returns the rename's error, with no binary at the executable's path. -/
private theorem rollback_unrestored (exe : env.executable = .ok current) (present : w.files current = some old)
    {backup : Bytes} (saved : w.files (current ++ ".old") = some backup) (statted : env.fault w.calls = none)
    (removed : env.fault (w.calls + 1) = none) (third : env.fault (w.calls + 2) = some err) :
    (rollback env w).1 = .error (err.wrap "failed to restore backup") ∧
      (rollback env w).2.files current = none ∧ (rollback env w).2.files (current ++ ".old") = some backup := by
  have third : env.fault (w.calls + 1 + 1) = some err := third
  simp [rollback, exe, UpdateWorld.stat, UpdateWorld.remove, UpdateWorld.rename, statted, removed, third, present,
    saved, backup_ne current]

/-- Both swaps can end with no executable: an install whose install rename and rename back
both fail after a successful backup, and a rollback whose rename fails after the current binary
was removed. Each returns an error, with the executable's path empty and the original binary
only at the `.old` path. -/
theorem swap_leaves_no_executable :
    (∀ (env : UpdateEnv) (w : UpdateWorld) (current newPath : String) (old : Bytes) (err err' : GoError),
      env.executable = .ok current → w.files current = some old → env.fault w.calls = none →
      env.fault (w.calls + 1) = some err → env.fault (w.calls + 2) = some err' →
      (installUpdate env newPath w).1 = .error (err.wrap "failed to install new binary") ∧
        (installUpdate env newPath w).2.files current = none ∧
        (installUpdate env newPath w).2.files (current ++ ".old") = some old) ∧
    ∀ (env : UpdateEnv) (w : UpdateWorld) (current : String) (old backup : Bytes) (err : GoError),
      env.executable = .ok current → w.files current = some old → w.files (current ++ ".old") = some backup →
      env.fault w.calls = none → env.fault (w.calls + 1) = none → env.fault (w.calls + 2) = some err →
      (rollback env w).1 = .error (err.wrap "failed to restore backup") ∧
        (rollback env w).2.files current = none ∧ (rollback env w).2.files (current ++ ".old") = some backup :=
  ⟨fun _ _ _ _ _ _ _ exe present first second third => installUpdate_unrestored exe present first second third,
    fun _ _ _ _ _ _ exe present saved statted removed third =>
      rollback_unrestored exe present saved statted removed third⟩

/-- An agent running from `/usr/bin/agent` with a downloaded binary in `/tmp`. -/
def downloadedWorld : UpdateWorld :=
  ⟨fun path => if path = "/usr/bin/agent" then some [1] else if path = "/tmp/agent_update_2.0.0" then some [2]
    else none, fun path => path = "/usr/bin/agent", 0⟩

/-- The same machine after an update: the new binary in place, the old one, still running, at
the backup path. -/
def updatedWorld : UpdateWorld :=
  ⟨fun path => if path = "/usr/bin/agent" then some [2] else if path = "/usr/bin/agent.old" then some [1]
    else none, fun path => path = "/usr/bin/agent.old", 0⟩

/-- Linux, with every file-system call failing from the `n`-th on. -/
def failingFrom (n : Nat) : UpdateEnv where
  goos := "linux"
  executable := .ok "/usr/bin/agent"
  tempDir := "/tmp"
  check := .answered 204 "" (.error (GoError.new "EOF"))
  download := .requestFails (GoError.new "no download")
  sha256 := fun _ => []
  fault := fun i => if i < n then none else some (GoError.new "input/output error")

theorem swap_leaves_no_executable_io_error :
    (installUpdate (failingFrom 1) "/tmp/agent_update_2.0.0" downloadedWorld).2.files "/usr/bin/agent" = none ∧
      (installUpdate (failingFrom 1) "/tmp/agent_update_2.0.0" downloadedWorld).2.files "/usr/bin/agent.old" =
        some [1] ∧
      (rollback (failingFrom 2) updatedWorld).2.files "/usr/bin/agent" = none ∧
      (rollback (failingFrom 2) updatedWorld).2.files "/usr/bin/agent.old" = some [1] :=
  have installed := swap_leaves_no_executable.1 (failingFrom 1) downloadedWorld "/usr/bin/agent"
    "/tmp/agent_update_2.0.0" [1] _ _ rfl rfl rfl rfl rfl
  have rolledBack := swap_leaves_no_executable.2 (failingFrom 2) updatedWorld "/usr/bin/agent" [2] [1] _
    rfl rfl rfl rfl rfl rfl
  ⟨installed.2.1, installed.2.2, rolledBack.2.1, rolledBack.2.2⟩

end Swap

/-! ## Installing an update -/

section Install

variable {env : UpdateEnv} {w : UpdateWorld}

/-- With no failing file-system call and no running program at the temporary path, the
downloaded body is in the temporary file. -/
private theorem downloadUpdate_ok (smooth : ∀ i, env.fault i = none) {metadata : UpdateMetadata} {content : Bytes}
    (downloaded : env.download = .answered 200 content none) (idle : w.busy (tempPath env metadata.version) = false) :
    downloadUpdate env metadata w =
      (.ok (tempPath env metadata.version),
        { w.next with files := Function.update w.files (tempPath env metadata.version) (some content) }) := by
  simp [downloadUpdate, downloaded, UpdateWorld.create, smooth, idle]

/-- A file whose checksum matches passes `VerifyUpdate` on the three supported platforms,
whatever the metadata's signature. -/
private theorem verifyUpdate_ok (smooth : ∀ i, env.fault i = none)
    (supported : env.goos = "windows" ∨ env.goos = "darwin" ∨ env.goos = "linux") {path : String}
    {content : Bytes} (stored : w.files path = some content) {metadata : UpdateMetadata}
    (checksummed : hexEncode (env.sha256 content) = metadata.checksum) :
    verifyUpdate env path metadata w = (.ok (), w.next.next) := by
  simp [verifyUpdate, UpdateWorld.readAll, smooth, stored, checksummed, verifySignature, supported]

/-- With no failing file-system call, an install puts the new binary at the executable's path. -/
private theorem installUpdate_ok (smooth : ∀ i, env.fault i = none) {current newPath : String} {old fresh : Bytes}
    (exe : env.executable = .ok current) (present : w.files current = some old) (stored : w.files newPath = some fresh)
    (apart : newPath ≠ current ∧ newPath ≠ current ++ ".old") :
    (installUpdate env newPath w).1 = .ok () ∧ (installUpdate env newPath w).2.files current = some fresh := by
  simp only [installUpdate, exe, UpdateWorld.rename, smooth, present, (backup_ne current).symm, if_false,
    UpdateWorld.next_files, Function.update_noteq apart.2, Function.update_noteq apart.1, stored, apart.1]
  split <;> simp [UpdateWorld.chmod_files]

/-- A binary whose checksum matches the metadata is installed, on every supported platform and
whatever `metadata.Signature` holds: when no file-system call fails and the temporary path is
not a running program, `PerformUpdate` returns nil
with the downloaded bytes at the executable's path, and replacing the signature by any other
changes nothing of the run. -/
theorem performUpdate_ignores_signature (smooth : ∀ i, env.fault i = none)
    (supported : env.goos = "windows" ∨ env.goos = "darwin" ∨ env.goos = "linux") {body : String}
    {metadata : UpdateMetadata} (offered : env.check = .answered 200 body (.ok metadata)) {content : Bytes}
    (downloaded : env.download = .answered 200 content none)
    (checksummed : hexEncode (env.sha256 content) = metadata.checksum)
    {current : String} {old : Bytes} (exe : env.executable = .ok current) (present : w.files current = some old)
    (apart : tempPath env metadata.version ≠ current ∧ tempPath env metadata.version ≠ current ++ ".old")
    (idle : w.busy (tempPath env metadata.version) = false) :
    (performUpdate env w).1 = .ok () ∧ (performUpdate env w).2.files current = some content ∧
      ∀ signature, performUpdate { env with check := .answered 200 body (.ok { metadata with signature }) } w =
        performUpdate env w := by
  have checked : checkForUpdate env = .ok (some metadata) := by simp [checkForUpdate, offered]
  have stored : (Function.update w.files (tempPath env metadata.version) (some content))
      (tempPath env metadata.version) = some content := Function.update_same _ _ _
  have kept : (Function.update w.files (tempPath env metadata.version) (some content)) current = some old := by
    rw [Function.update_noteq (Ne.symm apart.1), present]
  obtain ⟨installed, holds⟩ := installUpdate_ok
    (w := ({ w.next with files := Function.update w.files (tempPath env metadata.version) (some content) } :
      UpdateWorld).next.next) smooth exe kept stored apart
  have ran : performUpdate env w = (.ok (), ((installUpdate env (tempPath env metadata.version)
      ({ w.next with files := Function.update w.files (tempPath env metadata.version) (some content) } :
        UpdateWorld).next.next).2.remove env (tempPath env metadata.version)).2) := by
    have verified := verifyUpdate_ok
      (w := ⟨Function.update w.files (tempPath env metadata.version) (some content), w.next.busy, w.next.calls⟩)
      smooth supported stored checksummed
    simp only [performUpdate, checked, downloadUpdate_ok smooth downloaded idle, verified]
    revert installed
    generalize installUpdate env _ _ = result
    obtain ⟨r, w'⟩ := result
    rintro rfl
    rfl
  refine ⟨by rw [ran], by rw [ran, UpdateWorld.remove_files_of_ne _ (Ne.symm apart.1), holds], fun signature => ?_⟩
  have checked' : checkForUpdate { env with check := .answered 200 body (.ok { metadata with signature }) } =
      .ok (some { metadata with signature }) := by
    simp [checkForUpdate]
  simp only [performUpdate, checked, checked']
  rfl

/-- Linux, a server offering version 2.0.0 with a forged signature and a checksum that matches
the download, and no failing file-system call. -/
def forgedEnv : UpdateEnv where
  goos := "linux"
  executable := .ok "/usr/bin/agent"
  tempDir := "/tmp"
  check := .answered 200 "" (.ok ⟨"2.0.0", "ab", "forged"⟩)
  download := .answered 200 [0x7f, 0x45, 0x4c, 0x46] none
  sha256 := fun _ => [0xab]
  fault := fun _ => none

/-- A machine with the agent at `/usr/bin/agent`, running. -/
def installedWorld : UpdateWorld :=
  ⟨fun path => if path = "/usr/bin/agent" then some [1] else none, fun path => path = "/usr/bin/agent", 0⟩

theorem performUpdate_ignores_signature_forged :
    (performUpdate forgedEnv installedWorld).1 = .ok () ∧
      (performUpdate forgedEnv installedWorld).2.files "/usr/bin/agent" = some [0x7f, 0x45, 0x4c, 0x46] ∧
      ∀ signature, performUpdate { forgedEnv with
        check := .answered 200 "" (.ok { (⟨"2.0.0", "ab", "forged"⟩ : UpdateMetadata) with signature }) }
          installedWorld = performUpdate forgedEnv installedWorld :=
  performUpdate_ignores_signature (fun _ => rfl) (.inr (.inr rfl)) rfl rfl (by decide) rfl rfl (by decide) (by decide)

end Install

end Updater

end EndpointAgent
