import EndpointAgent.Updater.Install

/-!
# Where `DownloadUpdate` writes

`DownloadUpdate` writes the binary to `filepath.Join(os.TempDir(), "agent_update_" + Version)`
with the version as the server sent it, and `PerformUpdate` removes that path when it is done.
`Join` cleans the joined path, so `..` elements in the version climb out of the temporary
directory and the server chooses which file is created, overwritten and then removed. A
version with no `/` keeps the file directly inside the temporary directory.
-/

set_option autoImplicit false

namespace EndpointAgent

namespace UpdateWorld

variable {env : UpdateEnv}

private theorem create_files_of_ne (w : UpdateWorld) {path other : String} (differs : other ≠ path) :
    (w.create env path).2.files other = w.files other := by
  unfold create
  split
  · rfl
  · split <;> simp [Function.update_noteq differs]

end UpdateWorld

namespace Updater

open Filepath

variable {env : UpdateEnv}

/-- `DownloadUpdate` touches no file but the temporary one. -/
private theorem downloadUpdate_files_of_ne (metadata : UpdateMetadata) (w : UpdateWorld) {path : String}
    (differs : path ≠ tempPath env metadata.version) :
    (downloadUpdate env metadata w).2.files path = w.files path := by
  unfold downloadUpdate
  split
  · rfl
  · rfl
  · split
    · rfl
    · have created := @UpdateWorld.create_files_of_ne env w _ _ differs
      dsimp only
      split <;> rename_i outcome <;> rw [outcome] at created <;> dsimp only at created
      · exact created
      · split <;> simp [UpdateWorld.remove_files_of_ne _ differs, Function.update_noteq differs, created]

/-- The path `DownloadUpdate` returns is the temporary file's. -/
private theorem downloadUpdate_ok_path (metadata : UpdateMetadata) (w : UpdateWorld) {tmpFile : String}
    (ok : (downloadUpdate env metadata w).1 = .ok tmpFile) : tmpFile = tempPath env metadata.version := by
  unfold downloadUpdate at ok
  split at ok
  · cases ok
  · cases ok
  · split at ok
    · cases ok
    · dsimp only at ok
      split at ok
      · cases ok
      · split at ok
        · cases ok
        · exact (Except.ok.inj ok).symm

/-- The name `DownloadUpdate` gives the file is one element when the version has no `/`. -/
private theorem unix_isName_update {version : String} (plain : ∀ c ∈ version.data, c ≠ '/') :
    unix.IsName ("agent_update_" ++ version).data := by
  have fixedFree : ∀ c ∈ "agent_update_".data, unix.isSep c = false := by decide
  rw [String.data_append]
  refine ⟨by simp, by simp, by simp, fun c mem => ?_⟩
  rcases List.mem_append.mp mem with fixed | given
  · exact fixedFree c fixed
  · simpa [unix] using plain c given

/-- Where the binary goes: `DownloadUpdate` writes no file but `tempPath` of the version and
returns that path, and off Windows a version with no `/` keeps it inside `os.TempDir()`. -/
theorem downloadUpdate_writes_tempPath (env : UpdateEnv) (metadata : UpdateMetadata) (w : UpdateWorld) :
    (∀ path, path ≠ tempPath env metadata.version → (downloadUpdate env metadata w).2.files path = w.files path) ∧
      (∀ tmpFile, (downloadUpdate env metadata w).1 = .ok tmpFile → tmpFile = tempPath env metadata.version) ∧
      (env.goos ≠ "windows" → (∀ c ∈ metadata.version.data, c ≠ '/') →
        unix.Within env.tempDir (tempPath env metadata.version)) := by
  refine ⟨fun _ differs => downloadUpdate_files_of_ne metadata w differs,
    fun _ ok => downloadUpdate_ok_path metadata w ok, fun unixLike plain => ?_⟩
  rw [tempPath, if_neg unixLike]
  have named := unix_isName_update plain
  exact Separators.within_of_elements named.2.2.1 (Separators.elements_join_name env.tempDir named)

/-- A version that climbs out of the temporary directory to the agent's configuration file. -/
def climbing : UpdateMetadata := ⟨"x/../../../etc/unitechio/agent/config.json", "ab", ""⟩

/-- Linux with `/tmp` as temporary directory, the agent at `/usr/local/bin/your-agent`, and a
server offering `climbing` with a download whose checksum matches. -/
def climbingEnv : UpdateEnv where
  goos := "linux"
  executable := .ok "/usr/local/bin/your-agent"
  tempDir := "/tmp"
  check := .answered 200 "" (.ok climbing)
  download := .answered 200 [0x7f, 0x45, 0x4c, 0x46] none
  sha256 := fun _ => [0xab]
  fault := fun _ => none

/-- A machine running the agent from `/usr/local/bin/your-agent`, with its configuration in
`/etc/unitechio/agent/config.json`. -/
def agentWorld : UpdateWorld :=
  ⟨fun path => if path = "/usr/local/bin/your-agent" then some [1]
      else if path = "/etc/unitechio/agent/config.json" then some [2] else none,
    fun path => path = "/usr/local/bin/your-agent", 0⟩

/-- The cleaned temporary path of `climbing` is the agent's configuration file, outside `/tmp`:
the download overwrites it, and `PerformUpdate` installs it as the agent's binary, so the
configuration is gone. The same climb to the running binary itself is refused by the system, and
a plain version stays in `/tmp`. -/
theorem downloadUpdate_writes_tempPath_climbing :
    tempPath climbingEnv climbing.version = "/etc/unitechio/agent/config.json" ∧
      ¬unix.Within "/tmp" "/etc/unitechio/agent/config.json" ∧
      (downloadUpdate climbingEnv climbing agentWorld).1 = .ok "/etc/unitechio/agent/config.json" ∧
      (downloadUpdate climbingEnv climbing agentWorld).2.files "/etc/unitechio/agent/config.json" =
        some [0x7f, 0x45, 0x4c, 0x46] ∧
      (performUpdate climbingEnv agentWorld).1 = .ok () ∧
      (performUpdate climbingEnv agentWorld).2.files "/etc/unitechio/agent/config.json" = none ∧
      (∀ path, path ≠ tempPath climbingEnv climbing.version →
        (downloadUpdate climbingEnv climbing agentWorld).2.files path = agentWorld.files path) ∧
      (downloadUpdate climbingEnv ⟨"x/../../../usr/local/bin/your-agent", "ab", ""⟩ agentWorld).1 =
        .error ((UpdateWorld.textBusy "/usr/local/bin/your-agent").wrap "failed to create temp file") ∧
      unix.Within "/tmp" (tempPath climbingEnv "2.0.0") := by
  have target : tempPath climbingEnv climbing.version = "/etc/unitechio/agent/config.json" := by decide
  exact ⟨target, by decide, by rw [← target]; rfl, by decide, rfl, by decide,
    (downloadUpdate_writes_tempPath climbingEnv climbing agentWorld).1, rfl,
    (downloadUpdate_writes_tempPath climbingEnv ⟨"2.0.0", "ab", ""⟩ agentWorld).2.2 (by decide) (by decide)⟩

end Updater

end EndpointAgent
