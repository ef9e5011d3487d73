import EndpointAgent.Supervisor.Startup

/-!
# What a failed save leaves on disk

`Config.Save` and `saveCertificates` call `os.WriteFile` on the files themselves, with no
temporary file and rename. `os.WriteFile` truncates the file when it opens it, so a write that
fails after the open leaves the first bytes of the new content where the old file was. And
`saveCertificates` writes its three files one after another, so a failure at the key or the
CA certificate leaves the new certificate beside the old key, or beside a part of the new one.
-/

set_option autoImplicit false

namespace EndpointAgent

namespace Supervisor

variable {env : SupervisorEnv} {w w' : World} {err : GoError}

/-- A failed `saveCertificates` stopped at one of its three writes: the files before it hold
their new contents, the file it failed on what a failed write leaves, and those after it are
as they were. -/
private theorem saveCertificates_error {m : Manager} {resp : BootstrapResponse}
    (distinct : m.certPath ≠ m.keyPath ∧ m.certPath ≠ m.caPath ∧ m.keyPath ≠ m.caPath)
    (failed : m.saveCertificates env resp w = (.error err, w')) :
    (Leftover (w.files m.certPath) resp.certificate (w'.files m.certPath) ∧
        w'.files m.keyPath = w.files m.keyPath ∧ w'.files m.caPath = w.files m.caPath) ∨
      (w'.files m.certPath = some resp.certificate ∧
        Leftover (w.files m.keyPath) resp.privateKey (w'.files m.keyPath) ∧
        w'.files m.caPath = w.files m.caPath) ∨
      (w'.files m.certPath = some resp.certificate ∧ w'.files m.keyPath = some resp.privateKey ∧
        Leftover (w.files m.caPath) resp.caCert (w'.files m.caPath)) := by
  obtain ⟨certKey, certCA, keyCA⟩ := distinct
  unfold Manager.saveCertificates at failed
  split at failed
  · rename_i first
    cases failed
    exact .inl ⟨World.writeFile_error first, World.writeFile_files_of_ne first (Ne.symm certKey),
      World.writeFile_files_of_ne first (Ne.symm certCA)⟩
  · rename_i first
    split at failed
    · rename_i second
      cases failed
      refine .inr (.inl ⟨?_, ?_, ?_⟩)
      · rw [World.writeFile_files_of_ne second certKey, World.writeFile_eq_ok first]
      · rw [← World.writeFile_files_of_ne first (Ne.symm certKey)]
        exact World.writeFile_error second
      · rw [World.writeFile_files_of_ne second (Ne.symm keyCA),
          World.writeFile_files_of_ne first (Ne.symm certCA)]
    · rename_i second
      split at failed
      · rename_i third
        cases failed
        refine .inr (.inr ⟨?_, ?_, ?_⟩)
        · rw [World.writeFile_files_of_ne third certCA, World.writeFile_files_of_ne second certKey,
            World.writeFile_eq_ok first]
        · rw [World.writeFile_files_of_ne third keyCA, World.writeFile_eq_ok second]
        · rw [← World.writeFile_files_of_ne first (Ne.symm certCA),
            ← World.writeFile_files_of_ne second (Ne.symm keyCA)]
          exact World.writeFile_error third
      · cases failed

/-- What a failed save leaves: a failed `Save` leaves the configuration file as it was or
holding the first bytes of the new encoding; a failed `saveCertificates` leaves the files it
wrote before the failing write with their new contents, the file it failed on as it was or
holding the first bytes of its new contents, and the files after it as they were. -/
theorem failed_saves_leave (env : SupervisorEnv) (cfg : Config) (m : Manager)
    (resp : BootstrapResponse) (w : World) :
    (∀ w' err, save env cfg w = (.error err, w') →
      Leftover (w.files env.configPath) cfg.marshalIndent (w'.files env.configPath)) ∧
    (m.certPath ≠ m.keyPath ∧ m.certPath ≠ m.caPath ∧ m.keyPath ≠ m.caPath →
      ∀ w' err, m.saveCertificates env resp w = (.error err, w') →
        (Leftover (w.files m.certPath) resp.certificate (w'.files m.certPath) ∧
            w'.files m.keyPath = w.files m.keyPath ∧ w'.files m.caPath = w.files m.caPath) ∨
          (w'.files m.certPath = some resp.certificate ∧
            Leftover (w.files m.keyPath) resp.privateKey (w'.files m.keyPath) ∧
            w'.files m.caPath = w.files m.caPath) ∨
          (w'.files m.certPath = some resp.certificate ∧ w'.files m.keyPath = some resp.privateKey ∧
            Leftover (w.files m.caPath) resp.caCert (w'.files m.caPath))) :=
  ⟨fun _ _ failed => save_error env failed, fun distinct _ _ failed => saveCertificates_error distinct failed⟩

/-- The sample machine with its identity saved: `sampleConfig` in the configuration file and
the certificate, key and CA certificate `[1]`, `[2]` and `[3]`. -/
def persistedWorld : World :=
  { sampleWorld with
    files := fun path =>
      if path = "/etc/agent/agent.crt" then some [1]
      else if path = "/etc/agent/agent.key" then some [2]
      else if path = "/etc/agent/ca.crt" then some [3]
      else sampleWorld.files path }

/-- A disk on which the first write succeeds and every later one fails after truncating. -/
def truncatingEnv : SupervisorEnv :=
  sampleEnv "" "agent-1" fun n =>
    if n = 0 then .complete 0 else .interrupted 0 0 (GoError.new "no space left on device")

/-- The sample machine's identity manager. -/
def sampleManager : Manager := ⟨"/etc/agent/agent.crt", "/etc/agent/agent.key", "/etc/agent/ca.crt"⟩

/-- A renewed identity: certificate `[4]`, key `[5]`, CA certificate `[6]`. -/
def renewal : BootstrapResponse := ⟨"agent-1", "", [4], [5], [6]⟩

/-- On `truncatingEnv`, saving `renewal` over `persistedWorld` writes the new certificate and
then truncates the key: `saveCertificates` fails with `agent.crt` holding `[4]` and `agent.key`
empty, neither the old pair nor the new one. A `Save` after it fails as well, and leaves the
configuration file empty where `sampleConfig`'s encoding was. -/
theorem failed_saves_truncate :
    sampleManager.saveCertificates truncatingEnv renewal persistedWorld =
        (.error ((GoError.new "no space left on device").wrap "failed to write private key"),
          (sampleManager.saveCertificates truncatingEnv renewal persistedWorld).2) ∧
      save truncatingEnv sampleConfig (sampleManager.saveCertificates truncatingEnv renewal persistedWorld).2 =
        (.error ((GoError.new "no space left on device").wrap "failed to write config file"),
          (save truncatingEnv sampleConfig (sampleManager.saveCertificates truncatingEnv renewal
            persistedWorld).2).2) ∧
      persistedWorld.files sampleManager.certPath = some [1] ∧ persistedWorld.files sampleManager.keyPath = some [2] ∧
      (sampleManager.saveCertificates truncatingEnv renewal persistedWorld).2.files sampleManager.certPath =
        some [4] ∧
      (sampleManager.saveCertificates truncatingEnv renewal persistedWorld).2.files sampleManager.keyPath =
        some [] ∧
      persistedWorld.files truncatingEnv.configPath = some sampleConfig.marshalIndent ∧
      (save truncatingEnv sampleConfig (sampleManager.saveCertificates truncatingEnv renewal
        persistedWorld).2).2.files truncatingEnv.configPath = some [] :=
  ⟨Prod.ext rfl rfl, Prod.ext rfl rfl, rfl, rfl, by decide, by decide, rfl, by decide⟩

/-- The failed saves of `failed_saves_truncate` leave what `failed_saves_leave` allows: the
configuration file a prefix of the encoding, the certificate its new contents and the key a
prefix of its new contents. -/
theorem failed_saves_leave_truncated :
    (Leftover ((sampleManager.saveCertificates truncatingEnv renewal persistedWorld).2.files
          truncatingEnv.configPath) sampleConfig.marshalIndent
        ((save truncatingEnv sampleConfig (sampleManager.saveCertificates truncatingEnv renewal
          persistedWorld).2).2.files truncatingEnv.configPath)) ∧
      (sampleManager.certPath ≠ sampleManager.keyPath ∧ sampleManager.certPath ≠ sampleManager.caPath ∧
        sampleManager.keyPath ≠ sampleManager.caPath) ∧
      ((Leftover (persistedWorld.files sampleManager.certPath) renewal.certificate
            ((sampleManager.saveCertificates truncatingEnv renewal persistedWorld).2.files sampleManager.certPath) ∧
          (sampleManager.saveCertificates truncatingEnv renewal persistedWorld).2.files sampleManager.keyPath =
            persistedWorld.files sampleManager.keyPath ∧
          (sampleManager.saveCertificates truncatingEnv renewal persistedWorld).2.files sampleManager.caPath =
            persistedWorld.files sampleManager.caPath) ∨
        ((sampleManager.saveCertificates truncatingEnv renewal persistedWorld).2.files sampleManager.certPath =
            some renewal.certificate ∧
          Leftover (persistedWorld.files sampleManager.keyPath) renewal.privateKey
            ((sampleManager.saveCertificates truncatingEnv renewal persistedWorld).2.files sampleManager.keyPath) ∧
          (sampleManager.saveCertificates truncatingEnv renewal persistedWorld).2.files sampleManager.caPath =
            persistedWorld.files sampleManager.caPath) ∨
        ((sampleManager.saveCertificates truncatingEnv renewal persistedWorld).2.files sampleManager.certPath =
            some renewal.certificate ∧
          (sampleManager.saveCertificates truncatingEnv renewal persistedWorld).2.files sampleManager.keyPath =
            some renewal.privateKey ∧
          Leftover (persistedWorld.files sampleManager.caPath) renewal.caCert
            ((sampleManager.saveCertificates truncatingEnv renewal persistedWorld).2.files sampleManager.caPath))) :=
  have distinct : sampleManager.certPath ≠ sampleManager.keyPath ∧ sampleManager.certPath ≠ sampleManager.caPath ∧
      sampleManager.keyPath ≠ sampleManager.caPath := by decide
  ⟨(failed_saves_leave truncatingEnv sampleConfig sampleManager renewal _).1 _ _ (Prod.ext rfl rfl), distinct,
    (failed_saves_leave truncatingEnv sampleConfig sampleManager renewal persistedWorld).2 distinct _ _
      (Prod.ext rfl rfl)⟩

end Supervisor

end EndpointAgent
