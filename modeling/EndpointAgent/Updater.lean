import EndpointAgent.Basic
import EndpointAgent.Filepath

/-!
# Updater

`internal/updater` (`Updater`): `PerformUpdate` asks the server for update metadata, downloads
the binary to a temporary file, verifies it, and swaps it in with `InstallUpdate`; `Rollback`
moves the `.old` backup back. The files are a map from path to contents. Every file-system
call takes its outcome from the environment by its position in the run, as do the server's
answers, `os.Executable` and SHA-256.

Opening the program text of a running process for writing fails (`ETXTBSY`), so the world
also records which files are running programs, the agent's own binary among them.

`VerifyUpdate` compares the checksum and then calls `verifySignature`, which only looks at
the platform: it never reads the file or `metadata.Signature`. `InstallUpdate` ignores the
error of the rename that puts the backup back, and `Rollback` removes the current binary before
it moves the backup, so one failed rename after a successful first step leaves no executable.
-/

set_option autoImplicit false

namespace EndpointAgent

/-- `updater.UpdateMetadata`, the fields `PerformUpdate` reads (the signature only by the
design's contract). -/
structure UpdateMetadata where
  version : String
  checksum : String
  signature : String
  deriving DecidableEq, Repr

/-- How the request of `CheckForUpdate` ends. -/
inductive CheckOutcome where
  | requestFails (err : GoError)
  | transportFails (err : GoError)
  /-- The server answered with this status and body; `decoded` is what `json.Decoder.Decode`
  makes of the body. -/
  | answered (status : Nat) (body : String) (decoded : Except GoError UpdateMetadata)

/-- How the request of `DownloadUpdate` ends. -/
inductive DownloadOutcome where
  | requestFails (err : GoError)
  | transportFails (err : GoError)
  /-- The server answered with this status and body; `copyError` is `none` when `io.Copy`
  wrote the whole body, or the bytes written before its error. -/
  | answered (status : Nat) (content : Bytes) (copyError : Option (Nat × GoError))

/-- What the updater meets from outside. -/
structure UpdateEnv where
  /-- `runtime.GOOS`. -/
  goos : String
  /-- `os.Executable()`. -/
  executable : Except GoError String
  /-- `os.TempDir()`. -/
  tempDir : String
  check : CheckOutcome
  download : DownloadOutcome
  /-- SHA-256. -/
  sha256 : Bytes → Bytes
  /-- The error of the `n`-th file-system call of the run, if it fails. -/
  fault : Nat → Option GoError

/-- The files by path, which of them hold the program text of a running process (the agent's
own binary among them), and how many file-system calls the run has made. -/
structure UpdateWorld where
  files : String → Option Bytes
  busy : String → Bool
  calls : Nat

/-- How `os.Stat` ends. -/
inductive StatOutcome where
  | missing
  | failed (err : GoError)
  | present

namespace UpdateWorld

variable (env : UpdateEnv)

/-- The world after one more file-system call. -/
def next (w : UpdateWorld) : UpdateWorld := { w with calls := w.calls + 1 }

/-- The error of a call on a path that does not exist. -/
def notExist (op path : String) : GoError := GoError.new (op ++ " " ++ path ++ ": no such file or directory")

/-- `os.Rename(src, dst)`: the file moves, replacing what `dst` held; a running program's text
stays running under its new name. Its error is a `LinkError` naming both paths. -/
def rename (w : UpdateWorld) (src dst : String) : Except GoError Unit × UpdateWorld :=
  match env.fault w.calls, w.files src with
  | some err, _ => (.error err, w.next)
  | none, none => (.error (GoError.new ("rename " ++ src ++ " " ++ dst ++ ": no such file or directory")), w.next)
  | none, some data =>
    if src = dst then (.ok (), w.next)
    else (.ok (), { w.next with
      files := Function.update (Function.update w.files src none) dst (some data)
      busy := Function.update (Function.update w.busy src false) dst (w.busy src) })

/-- `os.Remove(path)`: unlinking a running program's file is allowed. -/
def remove (w : UpdateWorld) (path : String) : Except GoError Unit × UpdateWorld :=
  match env.fault w.calls, w.files path with
  | some err, _ => (.error err, w.next)
  | none, none => (.error (notExist "remove" path), w.next)
  | none, some _ => (.ok (), { w.next with
      files := Function.update w.files path none
      busy := Function.update w.busy path false })

/-- `os.Chmod(path, 0755)`: the contents stay. -/
def chmod (w : UpdateWorld) (path : String) : Except GoError Unit × UpdateWorld :=
  match env.fault w.calls, w.files path with
  | some err, _ => (.error err, w.next)
  | none, none => (.error (notExist "chmod" path), w.next)
  | none, some _ => (.ok (), w.next)

/-- `os.Stat(path)`. -/
def stat (w : UpdateWorld) (path : String) : StatOutcome × UpdateWorld :=
  match env.fault w.calls, w.files path with
  | some err, _ => (.failed err, w.next)
  | none, none => (.missing, w.next)
  | none, some _ => (.present, w.next)

/-- The error of opening for writing a file that a running process executes. -/
def textBusy (path : String) : GoError := GoError.new ("open " ++ path ++ ": text file busy")

/-- `os.Create(path)`: opened for writing and truncated, or made empty; the system refuses
(`ETXTBSY`) to open the program text of a running process for writing. -/
def create (w : UpdateWorld) (path : String) : Except GoError Unit × UpdateWorld :=
  match env.fault w.calls with
  | some err => (.error err, w.next)
  | none =>
    if (w.files path).isSome && w.busy path then (.error (textBusy path), w.next)
    else (.ok (), { w.next with files := Function.update w.files path (some []) })

/-- `os.Open(path)` and `io.Copy` of the file into the hash: two calls. -/
def readAll (w : UpdateWorld) (path : String) : Except GoError Bytes × UpdateWorld :=
  match env.fault w.calls, w.files path with
  | some err, _ => (.error (err.wrap "failed to open file"), w.next)
  | none, none => (.error ((notExist "open" path).wrap "failed to open file"), w.next)
  | none, some data =>
    match env.fault (w.calls + 1) with
    | some err => (.error (err.wrap "failed to compute checksum"), w.next.next)
    | none => (.ok data, w.next.next)

end UpdateWorld

/-- `hex.EncodeToString`: two lowercase hexadecimal digits per byte. -/
def hexEncode (bytes : Bytes) : String :=
  String.mk (bytes.flatMap fun b => [Nat.digitChar (b.toNat / 16), Nat.digitChar (b.toNat % 16)])

namespace Updater

variable (env : UpdateEnv)

/-- `CheckForUpdate`: `none` when the server has no update (204). -/
def checkForUpdate : Except GoError (Option UpdateMetadata) :=
  match env.check with
  | .requestFails err => .error (err.wrap "failed to create request")
  | .transportFails err => .error (err.wrap "HTTP request failed")
  | .answered status body decoded =>
    if status = 204 then .ok none
    else if status ≠ 200 then .error (GoError.new ("server returned status " ++ toString status ++ ": " ++ body))
    else
      match decoded with
      | .error err => .error (err.wrap "failed to decode metadata")
      | .ok metadata => .ok (some metadata)

/-- The temporary file of a version: `filepath.Join(os.TempDir(), "agent_update_<version>")`,
with `.exe` appended on Windows. -/
def tempPath (version : String) : String :=
  if env.goos = "windows" then Filepath.windows.join [env.tempDir, "agent_update_" ++ version] ++ ".exe"
  else Filepath.unix.join [env.tempDir, "agent_update_" ++ version]

/-- `DownloadUpdate`: the body in the temporary file, whose path it returns. A failed copy
removes the partial file. -/
def downloadUpdate (metadata : UpdateMetadata) (w : UpdateWorld) : Except GoError String × UpdateWorld :=
  match env.download with
  | .requestFails err => (.error (err.wrap "failed to create request"), w)
  | .transportFails err => (.error (err.wrap "download failed"), w)
  | .answered status content copyError =>
    if status ≠ 200 then (.error (GoError.new ("download failed with status " ++ toString status)), w)
    else
      let tmpFile := tempPath env metadata.version
      match w.create env tmpFile with
      | (.error err, w) => (.error (err.wrap "failed to create temp file"), w)
      | (.ok (), w) =>
        match copyError with
        | some (written, err) =>
          let w := { w with files := Function.update w.files tmpFile (some (content.take written)) }
          (.error (err.wrap "download failed"), (w.remove env tmpFile).2)
        | none => (.ok tmpFile, { w with files := Function.update w.files tmpFile (some content) })

/-- `verifySignature`: it looks at the platform only. -/
def verifySignature : Except GoError Unit :=
  if env.goos = "windows" ∨ env.goos = "darwin" ∨ env.goos = "linux" then .ok ()
  else .error (GoError.new ("unsupported OS: " ++ env.goos))

/-- `VerifyUpdate`: the checksum, then `verifySignature`. -/
def verifyUpdate (filePath : String) (metadata : UpdateMetadata) (w : UpdateWorld) :
    Except GoError Unit × UpdateWorld :=
  match w.readAll env filePath with
  | (.error err, w) => (.error err, w)
  | (.ok data, w) =>
    let checksum := hexEncode (env.sha256 data)
    if checksum ≠ metadata.checksum then
      (.error (GoError.new ("checksum mismatch: expected " ++ metadata.checksum ++ ", got " ++ checksum)), w)
    else
      match verifySignature env with
      | .error err => (.error (err.wrap "signature verification failed"), w)
      | .ok () => (.ok (), w)

/-- `InstallUpdate`: the current executable to `.old`, the new binary to the current path,
then `chmod` off Windows, whose failure is only a warning. When the second rename fails, the
rename back is made and its error dropped. -/
def installUpdate (newBinaryPath : String) (w : UpdateWorld) : Except GoError Unit × UpdateWorld :=
  match env.executable with
  | .error err => (.error (err.wrap "failed to get executable path"), w)
  | .ok currentExe =>
    let backupPath := currentExe ++ ".old"
    match w.rename env currentExe backupPath with
    | (.error err, w) => (.error (err.wrap "failed to backup current binary"), w)
    | (.ok (), w) =>
      match w.rename env newBinaryPath currentExe with
      | (.error err, w) => (.error (err.wrap "failed to install new binary"), (w.rename env backupPath currentExe).2)
      | (.ok (), w) => (.ok (), if env.goos = "windows" then w else (w.chmod env currentExe).2)

/-- `Rollback`: a backup that `os.Stat` reports missing stops it; otherwise the current binary
is removed and the backup renamed to it. -/
def rollback (w : UpdateWorld) : Except GoError Unit × UpdateWorld :=
  match env.executable with
  | .error err => (.error (err.wrap "failed to get executable path"), w)
  | .ok currentExe =>
    let backupPath := currentExe ++ ".old"
    match w.stat env backupPath with
    | (.missing, w) => (.error (GoError.new ("backup file not found: " ++ backupPath)), w)
    | (_, w) =>
      match w.remove env currentExe with
      | (.error err, w) => (.error (err.wrap "failed to remove current binary"), w)
      | (.ok (), w) =>
        match w.rename env backupPath currentExe with
        | (.error err, w) => (.error (err.wrap "failed to restore backup"), w)
        | (.ok (), w) => (.ok (), w)

/-- `PerformUpdate`: check, download, verify, install; the deferred `os.Remove` of the
temporary file runs whatever the outcome, its error dropped. -/
def performUpdate (w : UpdateWorld) : Except GoError Unit × UpdateWorld :=
  match checkForUpdate env with
  | .error err => (.error (err.wrap "failed to check for update"), w)
  | .ok none => (.ok (), w)
  | .ok (some metadata) =>
    match downloadUpdate env metadata w with
    | (.error err, w) => (.error (err.wrap "failed to download update"), w)
    | (.ok tmpFile, w) =>
      let (result, w) : Except GoError Unit × UpdateWorld :=
        match verifyUpdate env tmpFile metadata w with
        | (.error err, w) => (.error (err.wrap "failed to verify update"), w)
        | (.ok (), w) =>
          match installUpdate env tmpFile w with
          | (.error err, w) => (.error (err.wrap "failed to install update"), w)
          | (.ok (), w) => (.ok (), w)
      (result, (w.remove env tmpFile).2)

end Updater

end EndpointAgent
