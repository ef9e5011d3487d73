import EndpointAgent.MockServer

/-!
# Registering with the mock server

`RunBootstrap` with every bootstrap call answered by the mock server. Only a configuration that
carries the server's organization ID and install token ever comes back bootstrapped, and then
under an agent ID the server made and with the server's own address as API base URL, whatever
the server's clock and certificate generator do from call to call.
-/

set_option autoImplicit false

namespace EndpointAgent

open MockServer

/-- The request `RunBootstrap` builds from a configuration. -/
def SupervisorEnv.bootstrapRequest (env : SupervisorEnv) (cfg : Config) : BootstrapRequest :=
  ⟨cfg.orgID, cfg.installToken, env.hostname, env.os, env.arch, "1.0.0"⟩

/-- The environment with every bootstrap call answered by the mock server: the `n`-th call finds
the server as `servers n` has it, and carries the request `RunBootstrap` builds from `cfg`. -/
def SupervisorEnv.servedBy (env : SupervisorEnv) (servers : Nat → ServerEnv) (cfg : Config) : SupervisorEnv :=
  { env with bootstrap := fun n => exchange (servers n) (env.bootstrapRequest cfg) }

namespace MockServer

/-- A registration that succeeds was made with the server's credentials, and gives the identity
the server issued. -/
private theorem register_eq_ok {srv : ServerEnv} {req : BootstrapRequest} {resp : EndpointAgent.BootstrapResponse}
    (registered : register srv req = .ok resp) :
    req.orgID = "test-org" ∧ req.installToken = "test-token-123" ∧
      ∃ cert key caCert, srv.certificates ("agent-" ++ toString srv.unix) = .ok (cert, key, caCert) ∧
        resp = issued ("agent-" ++ toString srv.unix) cert key caCert := by
  unfold register at registered
  split_ifs at registered with org token
  split at registered
  · cases registered
  · rename_i cert key caCert generated
    exact ⟨not_not.mp org, not_not.mp token, cert, key, caCert, generated, (Except.ok.inj registered).symm⟩

end MockServer

section Registration

variable {env : SupervisorEnv} {servers : Nat → ServerEnv} {cfg : Config}

/-- Against the mock server, `RunBootstrap` returns a configuration only for the server's
credentials, and marks it bootstrapped under an agent ID the server made, with the server's
address as API base URL. -/
theorem runBootstrap_servedBy_credentials {cfg' : Config} {w w' : World}
    (bootstrapped : runBootstrap (env.servedBy servers cfg) cfg w = (.ok cfg', w')) :
    cfg.orgID = "test-org" ∧ cfg.installToken = "test-token-123" ∧
      ∃ n, cfg' = cfg.markBootstrapped ("agent-" ++ toString (servers n).unix) "http://localhost:8080" := by
  obtain ⟨-, given, ⟨n, body, answer⟩, rfl, -⟩ := runBootstrap_eq_ok _ bootstrapped
  have granted := callBootstrapAPI_exchange (servers n) (env.bootstrapRequest cfg)
  rw [show exchange (servers n) (env.bootstrapRequest cfg) = _ from answer] at granted
  obtain ⟨org, token, cert, key, caCert, -, same⟩ := register_eq_ok granted.symm
  refine ⟨org, token, n, ?_⟩
  by_cases empty : given.apiBaseURL = ""
  · have base := congrArg EndpointAgent.BootstrapResponse.apiBaseURL same
    simp [empty, issued, defaultAPIBaseURL] at base
  · simp only [empty, if_false] at same ⊢
    rw [same]
    rfl

/-- A mock server whose clock reads 1700000000 and whose generator gives fixed PEM texts. -/
def sampleServer : ServerEnv := ⟨1700000000, "2024-11-14T22:13:20Z", fun _ => .ok ("CERT", "KEY", "CA")⟩

/-- A first install with the mock server's credentials. -/
def mockConfig : Config :=
  { Config.zero with
    orgID := "test-org"
    installToken := "test-token-123"
    tlsConfig := ⟨"/etc/agent/agent.crt", "/etc/agent/agent.key", "/etc/agent/ca.crt", false⟩ }

/-- A machine with no files, before any call. -/
def blankWorld : World := ⟨fun _ => none, [], 0, 0, []⟩

set_option maxRecDepth 20000 in
theorem runBootstrap_servedBy_credentials_mock :
    runBootstrap (Supervisor.renewingEnv.servedBy (fun _ => sampleServer) mockConfig) mockConfig blankWorld =
        (.ok (mockConfig.markBootstrapped "agent-1700000000" "http://localhost:8080"),
          (runBootstrap (Supervisor.renewingEnv.servedBy (fun _ => sampleServer) mockConfig) mockConfig blankWorld).2) ∧
      mockConfig.orgID = "test-org" ∧ mockConfig.installToken = "test-token-123" ∧
      ∃ _ : Nat, mockConfig.markBootstrapped "agent-1700000000" "http://localhost:8080" =
        mockConfig.markBootstrapped ("agent-" ++ toString sampleServer.unix) "http://localhost:8080" :=
  have ran : runBootstrap (Supervisor.renewingEnv.servedBy (fun _ => sampleServer) mockConfig) mockConfig blankWorld =
      (.ok (mockConfig.markBootstrapped "agent-1700000000" "http://localhost:8080"),
        (runBootstrap (Supervisor.renewingEnv.servedBy (fun _ => sampleServer) mockConfig) mockConfig blankWorld).2) := by
    rfl
  ⟨ran, runBootstrap_servedBy_credentials ran⟩

end Registration

end EndpointAgent
