import EndpointAgent.Supervisor

/-!
# What startup reaches

`NeedsRebootstrap` holds in every state: its expiry check hands `X509KeyPair` a nil key.
So every run that gets past the identity manager bootstraps again, and the in-memory
configuration decides the rest: a bootstrap needs an install token, which `MarkBootstrapped`
has cleared on a first install. A first install therefore never reaches the run loop, and a
loaded configuration reaches it only with an install token from its file or from
`INSTALL_TOKEN`.
-/

set_option autoImplicit false

namespace EndpointAgent

/-! ## Files -/

/-- What a failed `os.WriteFile` of `data` may leave where `before` was: the file as it was,
or the first bytes of `data`. -/
def Leftover (before : Option Bytes) (data : Bytes) (after : Option Bytes) : Prop :=
  after = before ∨ ∃ written, after = some (data.take written)

namespace World

/-- `w'` follows `w` by file writes alone: the same bootstrap calls and warnings. -/
structure FilesOnly (w w' : World) : Prop where
  calls : w'.calls = w.calls
  warnings : w'.warnings = w.warnings

theorem FilesOnly.trans {w₁ w₂ w₃ : World} (first : FilesOnly w₁ w₂) (second : FilesOnly w₂ w₃) :
    FilesOnly w₁ w₃ :=
  ⟨second.calls.trans first.calls, second.warnings.trans first.warnings⟩

variable {env : SupervisorEnv} {w w' : World} {path : String} {data : Bytes}

private theorem writeFile_filesOnly {r : Except GoError Unit} (written : w.writeFile env path data = (r, w')) :
    FilesOnly w w' := by
  unfold writeFile at written
  split at written <;> cases written <;> exact ⟨rfl, rfl⟩

/-- A write touches no other file. -/
theorem writeFile_files_of_ne {r : Except GoError Unit} (written : w.writeFile env path data = (r, w'))
    {other : String} (differs : other ≠ path) : w'.files other = w.files other := by
  unfold writeFile at written
  split at written <;> cases written <;> simp [Function.update, differs]

/-- A write that returns nil stored all the data. -/
theorem writeFile_eq_ok (written : w.writeFile env path data = (.ok (), w')) :
    w'.files path = some data := by
  unfold writeFile at written
  split at written <;> cases written
  simp

theorem writeFile_error {err : GoError} (failed : w.writeFile env path data = (.error err, w')) :
    Leftover (w.files path) data (w'.files path) := by
  unfold writeFile at failed
  split at failed <;> cases failed
  · exact .inl rfl
  · exact .inr ⟨_, Function.update_same _ _ _⟩

private theorem readFileE_eq_ok (read : w.readFileE env path = .ok data) : w.files path = some data := by
  unfold readFileE readFile at read
  cases stored : w.files path <;> cases fault : env.readFault path <;> simp_all

end World

/-! ## The identity manager -/

namespace Manager

variable (env : SupervisorEnv)

private theorem new_eq_ok {cfg : Config} {m : Manager} (created : Manager.new env cfg = .ok m) :
    env.mkdirAll (parentDir cfg.tlsConfig.certFile) = none ∧
      m = ⟨cfg.tlsConfig.certFile, cfg.tlsConfig.keyFile, cfg.tlsConfig.caFile⟩ := by
  unfold Manager.new at created
  split at created
  · cases created
  · cases created; exact ⟨‹_›, rfl⟩

private theorem new_isOk (cfg : Config) :
    (∃ m, Manager.new env cfg = .ok m) ↔ env.mkdirAll (parentDir cfg.tlsConfig.certFile) = none := by
  unfold Manager.new
  split <;> simp_all

/-- `X509KeyPair` refuses the nil key of `NeedsRebootstrap`'s expiry check. -/
private theorem x509KeyPair_nil (certPEM : Bytes) :
    x509KeyPair env certPEM [] = .error (GoError.new "tls: failed to find any PEM data in key input") :=
  rfl

/-- `NeedsRebootstrap` holds whatever the files, the certificate and the clock: every path
through it returns true. -/
theorem needsRebootstrap_eq_true (m : Manager) (w : World) : m.needsRebootstrap env w = true := by
  unfold needsRebootstrap
  split
  · rfl
  · split
    · rfl
    · split
      · rw [x509KeyPair_nil]
      · rfl

/-- What a successful `VerifyIdentity` has read: the certificate file, and the certificate
whose Common Name it returns. -/
private theorem verifyIdentity_eq_ok {m : Manager} {w : World} {name : String}
    (verified : m.verifyIdentity env w = .ok name) :
    ∃ certPEM cert, w.files m.certPath = some certPEM ∧ env.crypto.certificate certPEM = .ok cert ∧
      cert.commonName = name := by
  unfold verifyIdentity at verified
  simp only [except_bind_eq_ok, except_mapError_eq_ok, except_map_eq_ok] at verified
  obtain ⟨certPEM, read, -, -, -, -, cert, parsed, named⟩ := verified
  exact ⟨certPEM, cert, World.readFileE_eq_ok read, parsed, Except.ok.inj named⟩

private theorem saveCertificates_filesOnly {m : Manager} {resp : BootstrapResponse} {w w' : World}
    {r : Except GoError Unit} (saved : m.saveCertificates env resp w = (r, w')) : World.FilesOnly w w' := by
  unfold saveCertificates at saved
  split at saved
  · rename_i first; cases saved; exact World.writeFile_filesOnly first
  · rename_i first
    split at saved
    · rename_i second; cases saved
      exact (World.writeFile_filesOnly first).trans (World.writeFile_filesOnly second)
    · rename_i second
      split at saved <;> rename_i third <;> cases saved <;>
        exact ((World.writeFile_filesOnly first).trans (World.writeFile_filesOnly second)).trans
          (World.writeFile_filesOnly third)

/-- `saveCertificates` touches no file but its three. -/
private theorem saveCertificates_files_of_ne {m : Manager} {resp : BootstrapResponse} {w w' : World}
    {r : Except GoError Unit} (saved : m.saveCertificates env resp w = (r, w')) {other : String}
    (apart : other ≠ m.certPath ∧ other ≠ m.keyPath ∧ other ≠ m.caPath) : w'.files other = w.files other := by
  unfold saveCertificates at saved
  split at saved
  · rename_i first; cases saved; exact World.writeFile_files_of_ne first apart.1
  · rename_i first
    split at saved
    · rename_i second; cases saved
      rw [World.writeFile_files_of_ne second apart.2.1, World.writeFile_files_of_ne first apart.1]
    · rename_i second
      split at saved <;> rename_i third <;> cases saved <;>
        rw [World.writeFile_files_of_ne third apart.2.2, World.writeFile_files_of_ne second apart.2.1,
          World.writeFile_files_of_ne first apart.1]

/-- Certificates saved to three distinct paths: the certificate file holds the response's
certificate. -/
private theorem saveCertificates_eq_ok {m : Manager} {resp : BootstrapResponse} {w w' : World}
    (saved : m.saveCertificates env resp w = (.ok (), w'))
    (distinct : m.certPath ≠ m.keyPath ∧ m.certPath ≠ m.caPath) :
    w'.files m.certPath = some resp.certificate := by
  unfold saveCertificates at saved
  split at saved
  · cases saved
  · rename_i first
    split at saved
    · cases saved
    · rename_i second
      split at saved
      · cases saved
      · rename_i third
        cases saved
        rw [World.writeFile_files_of_ne third distinct.2, World.writeFile_files_of_ne second distinct.1,
          World.writeFile_eq_ok first]

end Manager

/-! ## Bootstrap calls -/

section Bootstrap

variable (env : SupervisorEnv)

/-- A response of `callBootstrapAPI` is a 200 answer of the server, with the default API base
URL filled in when it gave none. -/
private theorem callBootstrapAPI_eq_ok {outcome : BootstrapOutcome} {resp : BootstrapResponse}
    (granted : callBootstrapAPI outcome = .ok resp) :
    ∃ body given, outcome = .answered 200 body (.ok given) ∧
      resp = if given.apiBaseURL = "" then { given with apiBaseURL := defaultAPIBaseURL } else given := by
  cases outcome with
  | requestFails err => cases granted
  | transportFails err => cases granted
  | answered status body decoded =>
    by_cases answered : status = 200
    · subst answered
      cases decoded with
      | error err => cases granted
      | ok given => exact ⟨body, given, rfl, (Except.ok.inj granted).symm⟩
    · simp [callBootstrapAPI, answered] at granted

/-- Every attempt calls the bootstrap API, and nothing else of the world but the wait count
changes. -/
private theorem retryBootstrap_world (request : BootstrapRequest) (remaining : Nat) (w : World) :
    ∃ more waits, (retryBootstrap env request (remaining + 1) w).2 =
      { w with calls := w.calls ++ request :: more, waits } := by
  induction remaining generalizing w with
  | zero =>
    unfold retryBootstrap
    dsimp only
    cases callBootstrapAPI (env.bootstrap w.calls.length) <;> exact ⟨[], _, rfl⟩
  | succ remaining ih =>
    unfold retryBootstrap
    dsimp only
    cases callBootstrapAPI (env.bootstrap w.calls.length) with
    | ok resp => exact ⟨[], _, rfl⟩
    | error err =>
      dsimp only
      rw [if_neg (Nat.succ_ne_zero remaining)]
      cases env.cancelled w.waits with
      | some ctxErr => exact ⟨[], _, rfl⟩
      | none =>
        obtain ⟨more, waits, rest⟩ := ih { w with calls := w.calls ++ [request], waits := w.waits + 1 }
        exact ⟨request :: more, waits, by rw [rest]; simp⟩

private theorem retryBootstrap_files (request : BootstrapRequest) (remaining : Nat) (w : World) :
    (retryBootstrap env request remaining w).2.files = w.files := by
  cases remaining with
  | zero => rfl
  | succ remaining =>
    obtain ⟨more, waits, retried⟩ := retryBootstrap_world env request remaining w
    rw [retried]

private theorem retryBootstrap_eq_ok {request : BootstrapRequest} {remaining : Nat} {w w' : World}
    {resp : BootstrapResponse} (granted : retryBootstrap env request remaining w = (.ok resp, w')) :
    ∃ n body given, env.bootstrap n = .answered 200 body (.ok given) ∧
      resp = if given.apiBaseURL = "" then { given with apiBaseURL := defaultAPIBaseURL } else given := by
  induction remaining generalizing w with
  | zero => cases granted
  | succ remaining ih =>
    unfold retryBootstrap at granted
    dsimp only at granted
    cases answer : callBootstrapAPI (env.bootstrap w.calls.length) with
    | ok given =>
      rw [answer] at granted
      cases granted
      obtain ⟨body, given, outcome, rfl⟩ := callBootstrapAPI_eq_ok answer
      exact ⟨_, body, given, outcome, rfl⟩
    | error err =>
      rw [answer] at granted
      dsimp only at granted
      split at granted
      · cases granted
      · split at granted
        · cases granted
        · exact ih granted

/-- `RunBootstrap` leaves the world as it is when the configuration fails `ValidateBootstrap`
or the certificate directory cannot be made; otherwise, after its attempts, it only writes
files. -/
private theorem runBootstrap_world (cfg : Config) (w : World) :
    (¬(cfg.BootstrapValid ∧ env.mkdirAll (parentDir cfg.tlsConfig.certFile) = none) ∧
        (runBootstrap env cfg w).2 = w) ∨
      (cfg.BootstrapValid ∧ env.mkdirAll (parentDir cfg.tlsConfig.certFile) = none ∧
        World.FilesOnly (retryBootstrap env
          ⟨cfg.orgID, cfg.installToken, env.hostname, env.os, env.arch, "1.0.0"⟩ 10 w).2
          (runBootstrap env cfg w).2) := by
  rw [← Config.validateBootstrap_eq_ok, ← Manager.new_isOk]
  unfold runBootstrap
  split
  · rename_i failed
    exact .inl ⟨by simp [failed], rfl⟩
  · rename_i valid
    split
    · rename_i refused
      exact .inl ⟨by simp [refused], rfl⟩
    · rename_i created
      refine .inr ⟨valid, ⟨_, created⟩, ?_⟩
      dsimp only
      split
      · rename_i retried
        rw [retried]; exact ⟨rfl, rfl⟩
      · rename_i retried
        rw [retried]
        split <;> rename_i saved <;> exact Manager.saveCertificates_filesOnly env saved

@[simp] theorem runBootstrap_warnings (cfg : Config) (w : World) :
    (runBootstrap env cfg w).2.warnings = w.warnings := by
  rcases runBootstrap_world env cfg w with ⟨-, same⟩ | ⟨-, -, after⟩
  · rw [same]
  · obtain ⟨more, waits, retried⟩ := retryBootstrap_world env
      ⟨cfg.orgID, cfg.installToken, env.hostname, env.os, env.arch, "1.0.0"⟩ 9 w
    rw [after.warnings, retried]

/-- `RunBootstrap` only adds bootstrap calls, and it adds some exactly when the configuration
passes `ValidateBootstrap` and the certificate directory can be made. -/
theorem runBootstrap_calls (cfg : Config) (w : World) :
    w.calls <+: (runBootstrap env cfg w).2.calls ∧
      (w.calls.length < (runBootstrap env cfg w).2.calls.length ↔
        cfg.BootstrapValid ∧ env.mkdirAll (parentDir cfg.tlsConfig.certFile) = none) := by
  rcases runBootstrap_world env cfg w with ⟨invalid, same⟩ | ⟨valid, created, after⟩
  · rw [same]
    exact ⟨⟨[], List.append_nil _⟩, by simpa using invalid⟩
  · obtain ⟨more, waits, retried⟩ := retryBootstrap_world env
      ⟨cfg.orgID, cfg.installToken, env.hostname, env.os, env.arch, "1.0.0"⟩ 9 w
    rw [after.calls, retried]
    exact ⟨⟨_, rfl⟩, by simpa using ⟨valid, created⟩⟩

/-- What a successful `RunBootstrap` returns: the configuration passed `ValidateBootstrap`, and
the result is it marked bootstrapped with a response of a server that answered 200; when the
three certificate paths differ, that response's certificate is in the certificate file. -/
theorem runBootstrap_eq_ok {cfg cfg' : Config} {w w' : World}
    (bootstrapped : runBootstrap env cfg w = (.ok cfg', w')) :
    cfg.BootstrapValid ∧ ∃ given, (∃ n body, env.bootstrap n = .answered 200 body (.ok given)) ∧
      cfg' = cfg.markBootstrapped given.agentID
        (if given.apiBaseURL = "" then defaultAPIBaseURL else given.apiBaseURL) ∧
      (cfg.tlsConfig.certFile ≠ cfg.tlsConfig.keyFile → cfg.tlsConfig.certFile ≠ cfg.tlsConfig.caFile →
        w'.files cfg.tlsConfig.certFile = some given.certificate) := by
  unfold runBootstrap at bootstrapped
  split at bootstrapped
  · cases bootstrapped
  · rename_i valid
    refine ⟨(Config.validateBootstrap_eq_ok cfg).mp valid, ?_⟩
    split at bootstrapped
    · cases bootstrapped
    · rename_i created
      obtain ⟨-, rfl⟩ := Manager.new_eq_ok env created
      dsimp only at bootstrapped
      split at bootstrapped
      · cases bootstrapped
      · rename_i retried
        obtain ⟨n, body, given, answer, rfl⟩ := retryBootstrap_eq_ok env retried
        split at bootstrapped
        · cases bootstrapped
        · rename_i saved
          cases bootstrapped
          refine ⟨given, ⟨n, body, answer⟩, by split <;> rfl, fun key ca => ?_⟩
          have stored := Manager.saveCertificates_eq_ok env saved ⟨key, ca⟩
          split at stored <;> exact stored

/-- `RunBootstrap` writes no file but the certificate, the key and the CA certificate. -/
private theorem runBootstrap_files_of_ne (cfg : Config) (w : World) {other : String}
    (apart : other ≠ cfg.tlsConfig.certFile ∧ other ≠ cfg.tlsConfig.keyFile ∧ other ≠ cfg.tlsConfig.caFile) :
    (runBootstrap env cfg w).2.files other = w.files other := by
  unfold runBootstrap
  split
  · rfl
  · split
    · rfl
    · rename_i created
      obtain ⟨-, rfl⟩ := Manager.new_eq_ok env created
      dsimp only
      have retried := retryBootstrap_files env
        ⟨cfg.orgID, cfg.installToken, env.hostname, env.os, env.arch, "1.0.0"⟩ 10 w
      split
      · rename_i attempts
        rw [attempts] at retried
        exact congrFun retried other
      · rename_i attempts
        rw [attempts] at retried
        split <;> rename_i saved <;> rw [Manager.saveCertificates_files_of_ne env saved apart] <;>
          exact congrFun retried other

end Bootstrap

/-! ## Startup -/

namespace Supervisor

variable (env : SupervisorEnv)

private theorem save_filesOnly {cfg : Config} {w w' : World} {r : Except GoError Unit}
    (saved : save env cfg w = (r, w')) : World.FilesOnly w w' := by
  unfold save at saved
  split at saved
  · cases saved; exact ⟨rfl, rfl⟩
  · split at saved <;> rename_i written <;> cases saved <;> exact World.writeFile_filesOnly written

private theorem save_files_of_ne {cfg : Config} {w w' : World} {r : Except GoError Unit}
    (saved : save env cfg w = (r, w')) {other : String} (differs : other ≠ env.configPath) :
    w'.files other = w.files other := by
  unfold save at saved
  split at saved
  · cases saved; rfl
  · split at saved <;> rename_i written <;> cases saved <;> exact World.writeFile_files_of_ne written differs

/-- A save that returns nil has written the configuration's encoding to the configuration
file. -/
theorem save_eq_ok {cfg : Config} {w w' : World} (saved : save env cfg w = (.ok (), w')) :
    w'.files env.configPath = some cfg.marshalIndent := by
  unfold save at saved
  split at saved
  · cases saved
  · split at saved
    · cases saved
    · rename_i written; cases saved; exact World.writeFile_eq_ok written

/-- A failed `Save` leaves the configuration file as it was, or holding the first bytes of the
new encoding. -/
theorem save_error {cfg : Config} {w w' : World} {err : GoError} (failed : save env cfg w = (.error err, w')) :
    Leftover (w.files env.configPath) cfg.marshalIndent (w'.files env.configPath) := by
  unfold save at failed
  split at failed
  · cases failed
    exact .inl rfl
  · split at failed
    · rename_i written
      cases failed
      exact World.writeFile_error written
    · cases failed

/-- The re-bootstrap makes the bootstrap calls of its `RunBootstrap` and no others. -/
theorem rebootstrap_calls (cfg : Config) (w : World) :
    (rebootstrap env cfg w).2.calls = (runBootstrap env { cfg with bootstrapped := false } w).2.calls := by
  unfold rebootstrap
  split
  · rename_i failed; rw [failed]
  · rename_i bootstrapped
    rw [bootstrapped]
    split <;> split <;> dsimp only <;> exact (save_filesOnly env ‹save _ _ _ = _›).calls

/-- What a successful re-bootstrap leaves: the configuration its `RunBootstrap` returned, the
manager of that configuration, every file but the configuration file as `RunBootstrap` left it,
and, unless saving the configuration logged a warning, the configuration file holding it. -/
theorem rebootstrap_eq_ok {cfg cfg' : Config} {m : Manager} {w w' : World}
    (renewed : rebootstrap env cfg w = (.ok (cfg', m), w')) :
    ∃ w₁, runBootstrap env { cfg with bootstrapped := false } w = (.ok cfg', w₁) ∧
      m = ⟨cfg'.tlsConfig.certFile, cfg'.tlsConfig.keyFile, cfg'.tlsConfig.caFile⟩ ∧
      (∀ other, other ≠ env.configPath → w'.files other = w₁.files other) ∧
      (w'.warnings = w₁.warnings → w'.files env.configPath = some cfg'.marshalIndent) ∧
      Leftover (w₁.files env.configPath) cfg'.marshalIndent (w'.files env.configPath) := by
  unfold rebootstrap at renewed
  split at renewed
  · cases renewed
  · rename_i cfg₁ w₁ bootstrapped
    dsimp only at renewed
    cases created : Manager.new env cfg₁ with
    | error err => rw [created] at renewed; cases renewed
    | ok manager =>
      rw [created] at renewed
      cases renewed
      refine ⟨w₁, bootstrapped, (Manager.new_eq_ok env created).2, ?_⟩
      split
      · rename_i saved
        have left := save_error env saved
        refine ⟨fun other differs => save_files_of_ne env saved differs, fun quiet => ?_, left⟩
        simp [(save_filesOnly env saved).warnings] at quiet
      · rename_i saved
        have whole := save_eq_ok env saved
        exact ⟨fun other differs => save_files_of_ne env saved differs, fun _ => whole,
          .inr ⟨cfg'.marshalIndent.length, by rw [whole, List.take_length]⟩⟩

/-- After the runtime check and the identity manager, `start` always re-bootstraps: its world
is the re-bootstrap's, or the one it was given when either step failed. -/
private theorem start_world (cfg : Config) (w : World) :
    (¬(cfg.RuntimeValid ∧ env.mkdirAll (parentDir cfg.tlsConfig.certFile) = none) ∧
        (start env cfg w).2 = w) ∨
      (cfg.RuntimeValid ∧ env.mkdirAll (parentDir cfg.tlsConfig.certFile) = none ∧
        (start env cfg w).2 = (rebootstrap env cfg w).2) := by
  rw [← Config.validateRuntime_eq_ok, ← Manager.new_isOk]
  unfold start
  split
  · rename_i failed
    exact .inl ⟨by simp [failed], rfl⟩
  · rename_i valid
    split
    · rename_i refused
      exact .inl ⟨by simp [refused], rfl⟩
    · rename_i created
      refine .inr ⟨valid, ⟨_, created⟩, ?_⟩
      rw [Manager.needsRebootstrap_eq_true, if_pos rfl]
      dsimp only
      split
      · rename_i renewed; rw [renewed]
      · rename_i renewed; rw [renewed]; split <;> rfl

/-- `start` only adds bootstrap calls, and it adds some exactly when the configuration passes
`ValidateRuntime`, still holds an install token, and the certificate directory can be made. -/
private theorem start_calls (cfg : Config) (w : World) :
    w.calls <+: (start env cfg w).2.calls ∧
      (w.calls.length < (start env cfg w).2.calls.length ↔
        cfg.RuntimeValid ∧ cfg.installToken ≠ "" ∧
          env.mkdirAll (parentDir cfg.tlsConfig.certFile) = none) := by
  rcases start_world env cfg w with ⟨invalid, same⟩ | ⟨valid, created, renewed⟩
  · rw [same]
    exact ⟨⟨[], List.append_nil _⟩, by simp only [lt_self_iff_false, false_iff]; tauto⟩
  · rw [renewed, rebootstrap_calls]
    obtain ⟨earlier, grows⟩ := runBootstrap_calls env { cfg with bootstrapped := false } w
    refine ⟨earlier, grows.trans ⟨fun ⟨bootstrap, _⟩ => ⟨valid, bootstrap.installToken, created⟩,
      fun ⟨_, token, _⟩ => ⟨⟨valid.orgID, token⟩, created⟩⟩⟩

/-- A configuration whose install token is empty makes `start` call nobody. -/
private theorem start_calls_of_installToken {cfg : Config} (cleared : cfg.installToken = "") (w : World) :
    (start env cfg w).2.calls = w.calls := by
  obtain ⟨earlier, grows⟩ := start_calls env cfg w
  have same : w.calls.length = (start env cfg w).2.calls.length := by
    have := earlier.length_le
    have := mt grows.mp fun ⟨_, token, _⟩ => token cleared
    omega
  exact (earlier.eq_of_length same).symm

/-- What `start` has done when it reaches the run loop: the configuration passed
`ValidateRuntime`, the re-bootstrap succeeded, and the new manager verified the identity. -/
theorem start_eq_running {cfg cfg' : Config} {w w' : World} (reached : start env cfg w = (.running cfg', w')) :
    cfg.RuntimeValid ∧ ∃ m name, rebootstrap env cfg w = (.ok (cfg', m), w') ∧
      m.verifyIdentity env w' = .ok name := by
  unfold start at reached
  split at reached
  · cases reached
  · rename_i valid
    refine ⟨(Config.validateRuntime_eq_ok cfg).mp valid, ?_⟩
    split at reached
    · cases reached
    · rw [Manager.needsRebootstrap_eq_true, if_pos rfl] at reached
      dsimp only at reached
      split at reached
      · cases reached
      · rename_i renewed
        split at reached
        · cases reached
        · rename_i verified
          cases reached
          exact ⟨_, _, renewed, verified⟩

/-- A first bootstrap calls the API exactly when the environment's configuration passes
`ValidateBootstrap` and the certificate directory can be made. -/
private theorem firstBootstrap_calls (w : World) :
    w.calls <+: (firstBootstrap env w).2.calls ∧
      (w.calls.length < (firstBootstrap env w).2.calls.length ↔
        (Config.newBootstrapConfig env.environ).BootstrapValid ∧
          env.mkdirAll (parentDir (Config.newBootstrapConfig env.environ).tlsConfig.certFile) = none) := by
  obtain ⟨earlier, grows⟩ := runBootstrap_calls env (Config.newBootstrapConfig env.environ) w
  unfold firstBootstrap
  dsimp only
  split
  · rename_i failed
    rw [← Config.validateBootstrap_eq_ok, failed]
    simp
  · split
    · rename_i bootstrapped
      rw [bootstrapped] at earlier grows
      exact ⟨earlier, grows⟩
    · rename_i bootstrapped
      rw [bootstrapped] at earlier grows
      split <;> rename_i saved <;> rw [(save_filesOnly env saved).calls] <;> exact ⟨earlier, grows⟩

/-- A first bootstrap's configuration has no install token left. -/
private theorem firstBootstrap_installToken {cfg : Config} {w w' : World}
    (bootstrapped : firstBootstrap env w = (.ok cfg, w')) : cfg.installToken = "" := by
  unfold firstBootstrap at bootstrapped
  dsimp only at bootstrapped
  split at bootstrapped
  · cases bootstrapped
  · split at bootstrapped
    · cases bootstrapped
    · rename_i ran
      obtain ⟨-, given, -, rfl, -⟩ := runBootstrap_eq_ok env ran
      split at bootstrapped <;> cases bootstrapped
      rfl

/-- A run reaches the loop only from a configuration it loaded: the first-install path hands
`start` a configuration without an install token. -/
theorem run_eq_running {cfg : Config} {w w' : World} (reached : run env w = (.running cfg, w')) :
    ∃ loaded, load env w = .ok loaded ∧ start env loaded w = (.running cfg, w') := by
  unfold run at reached
  split at reached
  · rename_i loaded
    exact ⟨_, loaded, reached⟩
  · split at reached
    · split at reached
      · cases reached
      · rename_i bootstrapped
        obtain ⟨-, m, name, renewed, -⟩ := start_eq_running env reached
        obtain ⟨w₁, ran, -⟩ := rebootstrap_eq_ok env renewed
        have token := (runBootstrap_eq_ok env ran).1.installToken
        exact absurd (firstBootstrap_installToken env bootstrapped) token
    · cases reached

/-! ## What a run reaches -/

/-- The server's certificates name the agent they are issued to. -/
def IssuesOwnName : Prop :=
  ∀ n status body resp cert, env.bootstrap n = .answered status body (.ok resp) →
    env.crypto.certificate resp.certificate = .ok cert → cert.commonName = resp.agentID

/-- The certificate file is none of the key file, the CA file and the configuration file. -/
def CertPathApart (cfg : Config) : Prop :=
  cfg.tlsConfig.certFile ≠ cfg.tlsConfig.keyFile ∧ cfg.tlsConfig.certFile ≠ cfg.tlsConfig.caFile ∧
    cfg.tlsConfig.certFile ≠ env.configPath

instance (cfg : Config) : Decidable (CertPathApart env cfg) :=
  inferInstanceAs (Decidable (cfg.tlsConfig.certFile ≠ cfg.tlsConfig.keyFile ∧
    cfg.tlsConfig.certFile ≠ cfg.tlsConfig.caFile ∧ cfg.tlsConfig.certFile ≠ env.configPath))

/-! ### Sample machines

A configuration as `Save` leaves it after a first bootstrap, reduced to the fields the runtime
check reads, alone on disk; and a server that grants the same identity on every call. -/

/-- A bootstrapped configuration. -/
def sampleConfig : Config :=
  { Config.zero with
    bootstrapped := true
    orgID := "org-1"
    agentID := "agent-1"
    apiBaseURL := defaultAPIBaseURL
    tlsConfig := ⟨"/etc/agent/agent.crt", "/etc/agent/agent.key", "/etc/agent/ca.crt", false⟩
    collectionInterval := 60 * second
    batchSize := 100 }

/-- A machine with `sampleConfig` in its configuration file and nothing else. -/
def sampleWorld : World where
  files path := if path = "/etc/agent/config.json" then some sampleConfig.marshalIndent else none
  calls := []
  waits := 0
  writes := 0
  warnings := []

/-- `INSTALL_TOKEN` is `installToken`, the server grants `agentID` with a certificate that
names it, and the `n`-th file write ends as `write n`. -/
def sampleEnv (installToken agentID : String) (write : Nat → WriteOutcome) : SupervisorEnv where
  environ := ⟨"", installToken, "", "", false⟩
  configPath := "/etc/agent/config.json"
  readFault _ := none
  mkdirAll _ := none
  crypto := ⟨fun _ _ => none, fun _ => .ok ⟨agentID, 0⟩⟩
  now := 0
  hostname := "host-1"
  os := "linux"
  arch := "amd64"
  bootstrap _ := .answered 200 "" (.ok ⟨agentID, "", [1], [2], [3]⟩)
  cancelled _ := none
  write := write

/-- `ORG_ID` and `INSTALL_TOKEN` unset. -/
def tokenlessEnv : SupervisorEnv := sampleEnv "" "agent-1" fun _ => .complete 0

/-- `INSTALL_TOKEN` set, and the server grants a new agent ID. -/
def renewingEnv : SupervisorEnv := sampleEnv "token-1" "agent-7" fun _ => .complete 0

/-- `INSTALL_TOKEN` set, the server grants an empty agent ID, and the fourth write (the
configuration file, after the certificate, the key and the CA certificate) fails. -/
def anonymousEnv : SupervisorEnv :=
  sampleEnv "token-1" "" fun n => if n = 3 then .openFails (GoError.new "no space left on device") else .complete 0

set_option maxRecDepth 20000 in
private theorem renewingEnv_run :
    run renewingEnv sampleWorld =
      (.running { sampleConfig with agentID := "agent-7" }, (run renewingEnv sampleWorld).2) :=
  Prod.ext (by decide) rfl

private theorem sampleEnv_issuesOwnName (installToken agentID : String) (write : Nat → WriteOutcome) :
    IssuesOwnName (sampleEnv installToken agentID write) := by
  rintro n status body resp cert ⟨⟩ ⟨⟩
  rfl

/-- Startup calls the bootstrap API on exactly two paths, on both of which the certificate
directory can be made: there is no configuration file and the environment's configuration
passes `ValidateBootstrap`; or the loaded configuration passes `ValidateRuntime` and still holds
an install token. -/
theorem run_calls_bootstrap_iff (w : World) :
    w.calls.length < (run env w).2.calls.length ↔
      (∃ err, load env w = .error err ∧ err.is .configNotFound = true ∧
          (Config.newBootstrapConfig env.environ).BootstrapValid ∧
          env.mkdirAll (parentDir (Config.newBootstrapConfig env.environ).tlsConfig.certFile) = none) ∨
        ∃ cfg, load env w = .ok cfg ∧ cfg.RuntimeValid ∧ cfg.installToken ≠ "" ∧
          env.mkdirAll (parentDir cfg.tlsConfig.certFile) = none := by
  unfold run
  split
  · rename_i cfg loaded
    rw [(start_calls env cfg w).2]
    simp [loaded]
  · rename_i err failed
    split
    · rename_i missing
      obtain ⟨-, grows⟩ := firstBootstrap_calls env w
      split
      · rename_i bootstrapped
        rw [bootstrapped] at grows
        simpa [failed, missing] using grows
      · rename_i bootstrapped
        rw [bootstrapped] at grows
        rw [start_calls_of_installToken env (firstBootstrap_installToken env bootstrapped)]
        simpa [failed, missing] using grows
    · rename_i other
      simp [failed, other]

set_option maxRecDepth 20000 in
/-- A bootstrapped configuration with an organization, whose certificate needs renewal,
loaded with `ORG_ID` and `INSTALL_TOKEN` unset: the run returns without calling the server. -/
theorem renewal_without_token_calls_nobody :
    tokenlessEnv.environ.orgID = "" ∧ tokenlessEnv.environ.installToken = "" ∧
      (load tokenlessEnv sampleWorld).toOption = some sampleConfig ∧
      sampleConfig.bootstrapped = true ∧ sampleConfig.orgID ≠ "" ∧
      (Manager.mk sampleConfig.tlsConfig.certFile sampleConfig.tlsConfig.keyFile
        sampleConfig.tlsConfig.caFile).needsRebootstrap tokenlessEnv sampleWorld = true ∧
      (run tokenlessEnv sampleWorld).2.calls = [] := by
  decide

/-- What holds when startup reaches the run loop, for a server whose certificates name their
agent, a certificate file apart from the other files, and key and CA files apart from the
configuration file. The configuration is bootstrapped with its install token cleared; it passes
`ValidateRuntime` exactly when the server's agent ID is not empty, since the re-bootstrap path
never checks it again. The configuration file holds its encoding unless saving it logged a
warning, and in every case holds either what it held before the run or the first bytes of that
encoding: a failed save truncates it in place. The certificate file holds a certificate that
names the agent ID. -/
theorem run_loop_state {w w' : World} {cfg : Config} (named : IssuesOwnName env)
    (apart : CertPathApart env cfg)
    (configApart : cfg.tlsConfig.keyFile ≠ env.configPath ∧ cfg.tlsConfig.caFile ≠ env.configPath)
    (reached : run env w = (.running cfg, w')) :
    (cfg.validateRuntime = .ok () ↔ cfg.agentID ≠ "") ∧
      (cfg.bootstrapped = true ∧ cfg.installToken = "" ∧
        (w'.warnings = w.warnings → w'.files env.configPath = some cfg.marshalIndent) ∧
        Leftover (w.files env.configPath) cfg.marshalIndent (w'.files env.configPath)) ∧
      ∃ certPEM cert, w'.files cfg.tlsConfig.certFile = some certPEM ∧
        env.crypto.certificate certPEM = .ok cert ∧ cert.commonName = cfg.agentID := by
  obtain ⟨loaded, -, started⟩ := run_eq_running env reached
  obtain ⟨valid, m, name, renewed, verified⟩ := start_eq_running env started
  obtain ⟨w₁, ran, rfl, kept, saved, left⟩ := rebootstrap_eq_ok env renewed
  have quiet := runBootstrap_warnings env { loaded with bootstrapped := false } w
  rw [ran] at quiet
  obtain ⟨-, given, ⟨n, body, answer⟩, rfl, stored⟩ := runBootstrap_eq_ok env ran
  have before := runBootstrap_files_of_ne env { loaded with bootstrapped := false } w
    ⟨apart.2.2.symm, configApart.1.symm, configApart.2.symm⟩
  rw [ran] at before
  obtain ⟨certPEM, cert, file, parsed, -⟩ := Manager.verifyIdentity_eq_ok env verified
  obtain rfl : certPEM = given.certificate :=
    Option.some.inj (file.symm.trans ((kept _ apart.2.2).trans (stored apart.1 apart.2.1)))
  have api : (if given.apiBaseURL = "" then defaultAPIBaseURL else given.apiBaseURL) ≠ "" := by
    split <;> simp_all [defaultAPIBaseURL]
  exact ⟨(Config.validateRuntime_eq_ok _).trans ⟨fun v => v.agentID, fun agent =>
      ⟨rfl, valid.orgID, agent, api, valid.collectionInterval, valid.batchSize⟩⟩,
    ⟨rfl, rfl, fun unwarned => saved (unwarned.trans quiet.symm), before ▸ left⟩,
    given.certificate, cert, file, parsed, named n 200 body given cert answer parsed⟩

set_option maxRecDepth 20000 in
/-- A server that grants an empty agent ID, and a failed write of the configuration file: the
run reaches the loop with a configuration that fails `ValidateRuntime`, and the configuration
file still holds the old agent ID. -/
theorem run_loop_with_empty_agent_id :
    (IssuesOwnName anonymousEnv ∧ CertPathApart anonymousEnv { sampleConfig with agentID := "" } ∧
        (sampleConfig.tlsConfig.keyFile ≠ anonymousEnv.configPath ∧
          sampleConfig.tlsConfig.caFile ≠ anonymousEnv.configPath) ∧
        run anonymousEnv sampleWorld =
          (.running { sampleConfig with agentID := "" }, (run anonymousEnv sampleWorld).2)) ∧
      ({ sampleConfig with agentID := "" } : Config).validateRuntime ≠ .ok () ∧
      (run anonymousEnv sampleWorld).2.warnings ≠ sampleWorld.warnings ∧
      (run anonymousEnv sampleWorld).2.files anonymousEnv.configPath = some sampleConfig.marshalIndent ∧
      sampleConfig.agentID ≠ "" :=
  have ran : run anonymousEnv sampleWorld =
      (.running { sampleConfig with agentID := "" }, (run anonymousEnv sampleWorld).2) := Prod.ext (by decide) rfl
  have apart : CertPathApart anonymousEnv { sampleConfig with agentID := "" } := by decide
  have configApart : sampleConfig.tlsConfig.keyFile ≠ anonymousEnv.configPath ∧
      sampleConfig.tlsConfig.caFile ≠ anonymousEnv.configPath := by decide
  ⟨⟨sampleEnv_issuesOwnName _ _ _, apart, configApart, ran⟩,
    fun valid => (run_loop_state anonymousEnv (sampleEnv_issuesOwnName _ _ _) apart configApart ran).1.mp valid rfl,
    by decide, by decide, by decide⟩

/-- The run loop is reached only from a configuration file that was loaded, passes
`ValidateRuntime`, and still holds an install token, from the file or from `INSTALL_TOKEN`: a
first install, which saves its configuration with the token cleared, never reaches it. -/
theorem run_loop_from_loaded {w w' : World} {cfg : Config} (reached : run env w = (.running cfg, w')) :
    ∃ loaded, load env w = .ok loaded ∧ loaded.RuntimeValid ∧ loaded.installToken ≠ "" := by
  obtain ⟨loaded, found, started⟩ := run_eq_running env reached
  obtain ⟨valid, m, name, renewed, -⟩ := start_eq_running env started
  obtain ⟨w₁, ran, -⟩ := rebootstrap_eq_ok env renewed
  exact ⟨loaded, found, valid, (runBootstrap_eq_ok env ran).1.installToken⟩

theorem run_loop_from_loaded_renewing :
    run renewingEnv sampleWorld =
        (.running { sampleConfig with agentID := "agent-7" }, (run renewingEnv sampleWorld).2) ∧
      ∃ loaded, load renewingEnv sampleWorld = .ok loaded ∧ loaded.RuntimeValid ∧ loaded.installToken ≠ "" :=
  ⟨renewingEnv_run, run_loop_from_loaded renewingEnv renewingEnv_run⟩

end Supervisor

end EndpointAgent
