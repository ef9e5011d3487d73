import EndpointAgent.Basic

/-!
# Configuration record

`internal/config/config.go`: the two-phase configuration (bootstrap, then runtime),
its two validators, the bootstrap transition `MarkBootstrapped`, and the defaults that
`NewBootstrapConfig` fills from the process environment.
-/

set_option autoImplicit false

namespace EndpointAgent

/-- `config.TLSConfig`: where the identity triple lives on disk. -/
structure TLSConfig where
  certFile : String
  keyFile : String
  caFile : String
  insecureSkipVerify : Bool
  deriving DecidableEq, Repr

/-- `config.Config`. Durations are `time.Duration` nanoseconds, sizes are bytes. -/
structure Config where
  bootstrapped : Bool
  orgID : String
  agentID : String
  installToken : String
  apiBaseURL : String
  tlsConfig : TLSConfig
  collectionInterval : Int
  batchSize : Int
  maxBufferSize : Int
  bufferDir : String
  heartbeatInterval : Int
  logLevel : String
  logFile : String
  updateEnabled : Bool
  updateCheckInterval : Int
  deriving DecidableEq, Repr

/-- The process environment as `os.Getenv` reads it (`""` when a variable is unset),
and the platform test of `isWindows`. -/
structure Environment where
  orgID : String
  installToken : String
  bootstrapURL : String
  agentConfig : String
  isWindows : Bool
  deriving DecidableEq, Repr

namespace Config

/-- One required-field check shared by both validators:
`if v == "" { return fmt.Errorf("%w: <field> is required", sentinel) }`. -/
def requireField (sentinel : Sentinel) (field value : String) : Except GoError Unit :=
  failIf (value = "") ((GoError.ofSentinel sentinel).wrapDetail (field ++ " is required"))

/-- `Config.ValidateBootstrap`. -/
def validateBootstrap (c : Config) : Except GoError Unit := do
  requireField .invalidBootstrap "org_id" c.orgID
  requireField .invalidBootstrap "install_token" c.installToken

/-- `Config.ValidateRuntime`. -/
def validateRuntime (c : Config) : Except GoError Unit := do
  failIf (c.bootstrapped = false) (GoError.ofSentinel .notBootstrapped)
  requireField .invalidRuntime "org_id" c.orgID
  requireField .invalidRuntime "agent_id" c.agentID
  requireField .invalidRuntime "api_base_url" c.apiBaseURL
  failIf (c.collectionInterval < 10 * second)
    ((GoError.ofSentinel .invalidRuntime).wrapDetail "collection_interval must be at least 10 seconds")
  failIf (c.batchSize < 1 ∨ c.batchSize > 1000)
    ((GoError.ofSentinel .invalidRuntime).wrapDetail "batch_size must be between 1 and 1000")

/-- `Config.MarkBootstrapped`: also clears the install token. -/
def markBootstrapped (c : Config) (agentID apiBaseURL : String) : Config :=
  { c with bootstrapped := true, agentID := agentID, apiBaseURL := apiBaseURL, installToken := "" }

/-- The default paths of `getDefault*`, Windows first. -/
def platformPath (env : Environment) (windows unix : String) : String :=
  if env.isWindows then windows else unix

/-- `NewBootstrapConfig`. -/
def newBootstrapConfig (env : Environment) : Config where
  bootstrapped := false
  orgID := env.orgID
  agentID := ""
  installToken := env.installToken
  apiBaseURL := ""
  tlsConfig :=
    { certFile := platformPath env "C:\\ProgramData\\unitechio\\Agent\\certs\\agent.crt"
        "/var/lib/your-agent/certs/agent.crt"
      keyFile := platformPath env "C:\\ProgramData\\unitechio\\Agent\\certs\\agent.key"
        "/var/lib/your-agent/certs/agent.key"
      caFile := platformPath env "C:\\ProgramData\\unitechio\\Agent\\certs\\ca.crt"
        "/var/lib/your-agent/certs/ca.crt"
      insecureSkipVerify := false }
  collectionInterval := 60 * second
  batchSize := 100
  maxBufferSize := 100 * 1024 * 1024
  bufferDir := platformPath env "C:\\ProgramData\\unitechio\\Agent\\buffer" "/var/lib/your-agent/buffer"
  heartbeatInterval := 5 * minute
  logLevel := "info"
  logFile := platformPath env "C:\\ProgramData\\unitechio\\Agent\\logs\\agent.log"
    "/var/log/your-agent/agent.log"
  updateEnabled := true
  updateCheckInterval := hour

/-! ## Validators -/

/-- What `ValidateBootstrap` accepts. -/
structure BootstrapValid (c : Config) : Prop where
  orgID : c.orgID ≠ ""
  installToken : c.installToken ≠ ""

/-- What `ValidateRuntime` accepts: the runtime profile of the data model. -/
structure RuntimeValid (c : Config) : Prop where
  bootstrapped : c.bootstrapped = true
  orgID : c.orgID ≠ ""
  agentID : c.agentID ≠ ""
  apiBaseURL : c.apiBaseURL ≠ ""
  collectionInterval : 10 * second ≤ c.collectionInterval
  batchSize : 1 ≤ c.batchSize ∧ c.batchSize ≤ 1000

@[simp] theorem requireField_eq_ok (sentinel : Sentinel) (field value : String) :
    requireField sentinel field value = .ok () ↔ value ≠ "" :=
  failIf_eq_ok _ _

theorem validateBootstrap_eq_ok (c : Config) :
    c.validateBootstrap = .ok () ↔ BootstrapValid c := by
  simp only [validateBootstrap, except_bind_unit_eq_ok, requireField_eq_ok]
  exact ⟨fun ⟨org, token⟩ => ⟨org, token⟩, fun valid => ⟨valid.orgID, valid.installToken⟩⟩

theorem validateRuntime_eq_ok (c : Config) :
    c.validateRuntime = .ok () ↔ RuntimeValid c := by
  simp only [validateRuntime, except_bind_unit_eq_ok, requireField_eq_ok, failIf_eq_ok,
    Bool.not_eq_false, not_lt, not_or, not_le]
  constructor
  · rintro ⟨bootstrapped, org, agent, api, interval, low, high⟩
    exact ⟨bootstrapped, org, agent, api, by omega, by omega, by omega⟩
  · rintro ⟨bootstrapped, org, agent, api, interval, low, high⟩
    exact ⟨bootstrapped, org, agent, api, by omega, by omega, by omega⟩

/-! ## The bootstrap transition -/

@[simp] theorem markBootstrapped_bootstrapped (c : Config) (agentID apiBaseURL : String) :
    (c.markBootstrapped agentID apiBaseURL).bootstrapped = true := rfl

@[simp] theorem markBootstrapped_agentID (c : Config) (agentID apiBaseURL : String) :
    (c.markBootstrapped agentID apiBaseURL).agentID = agentID := rfl

@[simp] theorem markBootstrapped_apiBaseURL (c : Config) (agentID apiBaseURL : String) :
    (c.markBootstrapped agentID apiBaseURL).apiBaseURL = apiBaseURL := rfl

@[simp] theorem markBootstrapped_installToken (c : Config) (agentID apiBaseURL : String) :
    (c.markBootstrapped agentID apiBaseURL).installToken = "" := rfl

@[simp] theorem markBootstrapped_orgID (c : Config) (agentID apiBaseURL : String) :
    (c.markBootstrapped agentID apiBaseURL).orgID = c.orgID := rfl

@[simp] theorem markBootstrapped_collectionInterval (c : Config) (agentID apiBaseURL : String) :
    (c.markBootstrapped agentID apiBaseURL).collectionInterval = c.collectionInterval := rfl

@[simp] theorem markBootstrapped_batchSize (c : Config) (agentID apiBaseURL : String) :
    (c.markBootstrapped agentID apiBaseURL).batchSize = c.batchSize := rfl

@[simp] theorem markBootstrapped_tlsConfig (c : Config) (agentID apiBaseURL : String) :
    (c.markBootstrapped agentID apiBaseURL).tlsConfig = c.tlsConfig := rfl

end Config

end EndpointAgent
