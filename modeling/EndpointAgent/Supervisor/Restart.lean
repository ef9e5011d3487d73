import EndpointAgent.Supervisor.Startup

/-!
# Restarts

What a second start of the agent does with the identity the first one left. The design renews
the identity only when a file of the triple is missing, the pair does not parse, the chain
fails, or the certificate expires within 24 hours. `NeedsRebootstrap` answers true in every
state instead, so a fresh identity is renewed too. `start` then bootstraps again on every run,
and a run reaches the loop only after a bootstrap call of its own, the first run and every
restart alike.
-/

set_option autoImplicit false

namespace EndpointAgent

namespace Manager

variable (env : SupervisorEnv)

/-- An identity the design keeps: the three files exist and can be read, the certificate and
key parse as a pair, and the certificate parses with 24 hours or more left. The chain check
against `ca.crt` has no counterpart in the code, which never reads that file's contents. -/
structure Fresh (m : Manager) (w : World) : Prop where
  present : m.hasIdentity w = true
  readable : env.readFault m.certPath = none ∧ env.readFault m.keyPath = none
  pair : ∀ certPEM keyPEM, w.files m.certPath = some certPEM → w.files m.keyPath = some keyPEM →
    x509KeyPair env certPEM keyPEM = .ok ()
  unexpired : ∀ certPEM, w.files m.certPath = some certPEM →
    ∃ cert, env.crypto.certificate certPEM = .ok cert ∧ 24 * hour ≤ cert.notAfter - env.now

/-- A fresh identity passes `VerifyIdentity`. -/
theorem Fresh.verifyIdentity {m : Manager} {w : World} (fresh : m.Fresh env w) :
    ∃ name, m.verifyIdentity env w = .ok name := by
  have present := fresh.present
  simp only [hasIdentity, Bool.and_eq_true, Option.isSome_iff_exists] at present
  obtain ⟨⟨⟨certPEM, cert⟩, ⟨keyPEM, key⟩⟩, -⟩ := present
  obtain ⟨parsed, decoded, -⟩ := fresh.unexpired certPEM cert
  refine ⟨parsed.commonName, ?_⟩
  simp [Manager.verifyIdentity, World.readFileE, World.readFile, cert, key, fresh.readable.1, fresh.readable.2,
    fresh.pair certPEM keyPEM cert key, decoded, bind, Except.bind, Except.mapError, pure, Except.pure]

/-- `NeedsRebootstrap` renews a fresh identity: the identity verifies, and the answer is still
true. -/
theorem renews_fresh_identity {m : Manager} {w : World} (fresh : m.Fresh env w) :
    (∃ name, m.verifyIdentity env w = .ok name) ∧ m.needsRebootstrap env w = true :=
  ⟨fresh.verifyIdentity env, needsRebootstrap_eq_true env m w⟩

end Manager

/-! ## Every run that reaches the loop has bootstrapped -/

section Runs

variable (env : SupervisorEnv)

/-- A `RunBootstrap` that succeeds has called the bootstrap API. -/
private theorem runBootstrap_eq_ok_calls {cfg cfg' : Config} {w w' : World}
    (bootstrapped : runBootstrap env cfg w = (.ok cfg', w')) : w.calls.length < w'.calls.length := by
  have created : env.mkdirAll (parentDir cfg.tlsConfig.certFile) = none := by
    cases refused : env.mkdirAll (parentDir cfg.tlsConfig.certFile) with
    | none => rfl
    | some err =>
      unfold runBootstrap Manager.new at bootstrapped
      rw [refused] at bootstrapped
      split at bootstrapped <;> cases bootstrapped
  have grows := (runBootstrap_calls env cfg w).2.mpr ⟨(runBootstrap_eq_ok env bootstrapped).1, created⟩
  rwa [bootstrapped] at grows

namespace Supervisor

/-- A run reaches the loop only through the re-bootstrap of `start`, so it has called the
bootstrap API. -/
private theorem run_loop_calls {w w' : World} {cfg : Config} (reached : run env w = (.running cfg, w')) :
    w.calls.length < w'.calls.length := by
  obtain ⟨loaded, -, started⟩ := run_eq_running env reached
  obtain ⟨-, m, name, renewed, -⟩ := start_eq_running env started
  obtain ⟨w₁, ran, -⟩ := rebootstrap_eq_ok env renewed
  have same := rebootstrap_calls env loaded w
  rw [renewed, ran] at same
  rw [same]
  exact runBootstrap_eq_ok_calls env ran

/-- A restart does not reuse the identity it finds: when a first run reaches the loop and a
second run on the state it left reaches the loop too, each has made a bootstrap request. -/
theorem restart_calls_bootstrap {w₀ w₁ w₂ : World} {cfg₁ cfg₂ : Config}
    (first : run env w₀ = (.running cfg₁, w₁)) (second : run env w₁ = (.running cfg₂, w₂)) :
    w₀.calls.length < w₁.calls.length ∧ w₁.calls.length < w₂.calls.length :=
  ⟨run_loop_calls env first, run_loop_calls env second⟩

/-! ## A fresh identity on disk -/

/-- `renewingEnv` with certificates that expire two days after the clock reading. -/
def freshEnv : SupervisorEnv :=
  { renewingEnv with crypto := ⟨fun _ _ => none, fun _ => .ok ⟨"agent-7", 48 * hour⟩⟩ }

/-- The identity files of `sampleConfig`, and nothing else. -/
def identityWorld : World :=
  { sampleWorld with
    files := fun path =>
      if path = "/etc/agent/agent.crt" then some [1]
      else if path = "/etc/agent/agent.key" then some [2]
      else if path = "/etc/agent/ca.crt" then some [3] else none }

theorem renews_fresh_identity_sample :
    (Manager.mk "/etc/agent/agent.crt" "/etc/agent/agent.key" "/etc/agent/ca.crt").Fresh freshEnv identityWorld ∧
      (∃ name, (Manager.mk "/etc/agent/agent.crt" "/etc/agent/agent.key" "/etc/agent/ca.crt").verifyIdentity
        freshEnv identityWorld = .ok name) ∧
      (Manager.mk "/etc/agent/agent.crt" "/etc/agent/agent.key" "/etc/agent/ca.crt").needsRebootstrap
        freshEnv identityWorld = true :=
  have fresh : (Manager.mk "/etc/agent/agent.crt" "/etc/agent/agent.key" "/etc/agent/ca.crt").Fresh
      freshEnv identityWorld :=
    ⟨by decide, ⟨rfl, rfl⟩, fun _ keyPEM _ key => by
        simp [identityWorld] at key
        subst key; rfl,
      fun _ _ => ⟨_, rfl, by decide⟩⟩
  ⟨fresh, Manager.renews_fresh_identity freshEnv fresh⟩

/-- The state a first run of `freshEnv` leaves on `sampleWorld`: the identity triple it was
granted and the configuration it saved. -/
def restartedWorld : World where
  files := Function.update (Function.update (Function.update (Function.update sampleWorld.files
    "/etc/agent/agent.crt" (some [1])) "/etc/agent/agent.key" (some [2])) "/etc/agent/ca.crt" (some [3]))
    "/etc/agent/config.json" (some ({ sampleConfig with agentID := "agent-7" } : Config).marshalIndent)
  calls := [⟨"org-1", "token-1", "host-1", "linux", "amd64", "1.0.0"⟩]
  waits := 0
  writes := 4
  warnings := []

set_option maxRecDepth 20000 in
/-- The first run reaches the loop and leaves a fresh identity, and the restart reaches the
loop again, each after a bootstrap call. -/
theorem restart_calls_bootstrap_fresh :
    run freshEnv sampleWorld = (.running { sampleConfig with agentID := "agent-7" }, restartedWorld) ∧
      (Manager.mk "/etc/agent/agent.crt" "/etc/agent/agent.key" "/etc/agent/ca.crt").Fresh freshEnv
        restartedWorld ∧
      run freshEnv restartedWorld =
        (.running { sampleConfig with agentID := "agent-7" }, (run freshEnv restartedWorld).2) ∧
      sampleWorld.calls.length < restartedWorld.calls.length ∧
      restartedWorld.calls.length < (run freshEnv restartedWorld).2.calls.length :=
  have first : run freshEnv sampleWorld = (.running { sampleConfig with agentID := "agent-7" }, restartedWorld) :=
    Prod.ext (by decide) rfl
  have second : run freshEnv restartedWorld =
      (.running { sampleConfig with agentID := "agent-7" }, (run freshEnv restartedWorld).2) :=
    Prod.ext (by decide) rfl
  have fresh : (Manager.mk "/etc/agent/agent.crt" "/etc/agent/agent.key" "/etc/agent/ca.crt").Fresh freshEnv
      restartedWorld :=
    ⟨by decide, ⟨rfl, rfl⟩, fun _ keyPEM _ key => by
        simp [restartedWorld, Function.update] at key
        subst key; rfl,
      fun _ _ => ⟨_, rfl, by decide⟩⟩
  ⟨first, fresh, second, restart_calls_bootstrap freshEnv first second⟩

end Supervisor

end Runs

end EndpointAgent
