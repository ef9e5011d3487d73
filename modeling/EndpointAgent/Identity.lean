import EndpointAgent.Config.Persist
import EndpointAgent.Disk

/-!
# Identity and bootstrap

`internal/identity`: the `Manager` over the certificate triple, `NeedsRebootstrap`,
`VerifyIdentity`, and `RunBootstrap` with `RetryWithBackoff`, `callBootstrapAPI` and
`saveCertificates`.

The files these read and write are a map from path to bytes. What the server answers, what
the file system does and whether the context is done come from the environment, call by
call. So does the cryptography: `tls.X509KeyPair` refuses a key input without PEM data, and
is otherwise given by what it decides on the two inputs, as is what `x509.ParseCertificate`
reads from a certificate.
-/

set_option autoImplicit false

namespace EndpointAgent

/-- The files of the run by path; `none` for a file that does not exist. -/
abbrev Files := String → Option Bytes

/-- What `x509.ParseCertificate` reads from a certificate: its Subject CN and `NotAfter`
(Unix nanoseconds). -/
structure Certificate where
  commonName : String
  notAfter : Int

/-- The cryptographic parsing, as the environment decides it. -/
structure Crypto where
  /-- The error of `tls.X509KeyPair` on a certificate input and a key input with PEM data. -/
  keyPairError : Bytes → Bytes → Option GoError
  /-- `x509.ParseCertificate` of the first certificate of a PEM input. -/
  certificate : Bytes → Except GoError Certificate

/-- `identity.BootstrapRequest`. -/
structure BootstrapRequest where
  orgID : String
  installToken : String
  hostname : String
  os : String
  arch : String
  agentVersion : String
  deriving DecidableEq

/-- `identity.BootstrapResponse`, the fields `RunBootstrap` reads. -/
structure BootstrapResponse where
  agentID : String
  apiBaseURL : String
  certificate : Bytes
  privateKey : Bytes
  caCert : Bytes

/-- How one `callBootstrapAPI` ends. -/
inductive BootstrapOutcome where
  /-- `http.NewRequestWithContext` refused the bootstrap URL. -/
  | requestFails (err : GoError)
  /-- `client.Do` failed. -/
  | transportFails (err : GoError)
  /-- The server answered with this status and body; `decoded` is what `json.Decoder.Decode`
  makes of the body. -/
  | answered (status : Nat) (body : String) (decoded : Except GoError BootstrapResponse)

/-- What the run meets from outside. -/
structure SupervisorEnv where
  environ : Environment
  configPath : String
  /-- The error of `os.ReadFile` on an existing file, by path. -/
  readFault : String → Option GoError
  /-- The error of `os.MkdirAll`, by path. -/
  mkdirAll : String → Option GoError
  crypto : Crypto
  /-- `time.Now()` when `NeedsRebootstrap` looks at the expiry (Unix nanoseconds). -/
  now : Int
  /-- `getHostname()`, `getOS()` and `getArch()`. -/
  hostname : String
  os : String
  arch : String
  /-- The `n`-th `callBootstrapAPI` of the run. -/
  bootstrap : Nat → BootstrapOutcome
  /-- `ctx.Err()` when the `n`-th wait between bootstrap attempts begins, if the context is
  done by then. -/
  cancelled : Nat → Option GoError
  /-- The `n`-th `os.WriteFile` of the run. -/
  write : Nat → WriteOutcome

/-- The run's files, the bootstrap calls made so far, the counters that pick each call's
outcome, and the warnings logged. -/
structure World where
  files : Files
  calls : List BootstrapRequest
  waits : Nat
  writes : Nat
  warnings : List GoError

/-- How `os.ReadFile` ends. -/
inductive FileRead where
  | missing
  | failed (err : GoError)
  | read (data : Bytes)

namespace World

variable (env : SupervisorEnv)

/-- `os.ReadFile(path)`. -/
def readFile (w : World) (path : String) : FileRead :=
  match w.files path, env.readFault path with
  | none, _ => .missing
  | some _, some err => .failed err
  | some data, none => .read data

/-- The error `os.ReadFile` returns for a missing file. -/
def notExist (path : String) : GoError := GoError.new ("open " ++ path ++ ": no such file or directory")

/-- `os.ReadFile(path)` as an error value. -/
def readFileE (w : World) (path : String) : Except GoError Bytes :=
  match w.readFile env path with
  | .missing => .error (notExist path)
  | .failed err => .error err
  | .read data => .ok data

/-- `os.WriteFile(path, data, perm)`: the next write outcome of the environment. -/
def writeFile (w : World) (path : String) (data : Bytes) : Except GoError Unit × World :=
  let w' := { w with writes := w.writes + 1 }
  match env.write w.writes with
  | .complete _ => (.ok (), { w' with files := Function.update w.files path (some data) })
  | .openFails err => (.error err, w')
  | .interrupted written _ err =>
    (.error err, { w' with files := Function.update w.files path (some (data.take written)) })

end World

/-- `filepath.Dir` for paths with `/` separators. -/
def parentDir (path : String) : String :=
  match (path.splitOn "/").dropLast with
  | [] => "."
  | parts => "/".intercalate parts

/-- `identity.Manager`: its certificate paths. -/
structure Manager where
  certPath : String
  keyPath : String
  caPath : String

namespace Manager

variable (env : SupervisorEnv)

/-- `NewManager(cfg, logger)`. -/
def new (cfg : Config) : Except GoError Manager :=
  match env.mkdirAll (parentDir cfg.tlsConfig.certFile) with
  | some err => .error (err.wrap "failed to create cert directory")
  | none => .ok ⟨cfg.tlsConfig.certFile, cfg.tlsConfig.keyFile, cfg.tlsConfig.caFile⟩

/-- `tls.X509KeyPair(certPEM, keyPEM)`: a key input with no PEM data is refused. -/
def x509KeyPair (certPEM keyPEM : Bytes) : Except GoError Unit :=
  if keyPEM = [] then .error (GoError.new "tls: failed to find any PEM data in key input")
  else
    match env.crypto.keyPairError certPEM keyPEM with
    | some err => .error err
    | none => .ok ()

/-- `VerifyIdentity`: the agent ID it reads from the certificate's Common Name. -/
def verifyIdentity (m : Manager) (w : World) : Except GoError String := do
  let certPEM ← (w.readFileE env m.certPath).mapError (GoError.wrap "failed to read certificate")
  let keyPEM ← (w.readFileE env m.keyPath).mapError (GoError.wrap "failed to read private key")
  (x509KeyPair env certPEM keyPEM).mapError (GoError.wrap "failed to parse certificate/key")
  let cert ← (env.crypto.certificate certPEM).mapError (GoError.wrap "failed to parse X.509 certificate")
  return cert.commonName

/-- `HasIdentity`: all three files exist. -/
def hasIdentity (m : Manager) (w : World) : Bool :=
  (w.files m.certPath).isSome && (w.files m.keyPath).isSome && (w.files m.caPath).isSome

/-- `NeedsRebootstrap`. Its expiry check parses the certificate with `X509KeyPair(certPEM,
nil)`. -/
def needsRebootstrap (m : Manager) (w : World) : Bool :=
  if !m.hasIdentity w then true
  else
    match m.verifyIdentity env w with
    | .error _ => true
    | .ok _ =>
      match w.readFile env m.certPath with
      | .read certPEM =>
        match x509KeyPair env certPEM [] with
        | .error _ => true
        | .ok () =>
          match env.crypto.certificate certPEM with
          | .error _ => true
          | .ok cert => decide (cert.notAfter - env.now < 24 * hour)
      | _ => true

/-- `saveCertificates`: certificate, key, then CA certificate. -/
def saveCertificates (m : Manager) (resp : BootstrapResponse) (w : World) : Except GoError Unit × World :=
  match w.writeFile env m.certPath resp.certificate with
  | (.error err, w) => (.error (err.wrap "failed to write certificate"), w)
  | (.ok (), w) =>
    match w.writeFile env m.keyPath resp.privateKey with
    | (.error err, w) => (.error (err.wrap "failed to write private key"), w)
    | (.ok (), w) =>
      match w.writeFile env m.caPath resp.caCert with
      | (.error err, w) => (.error (err.wrap "failed to write CA certificate"), w)
      | (.ok (), w) => (.ok (), w)

end Manager

/-- The API base URL `callBootstrapAPI` fills in when the server gives none. -/
def defaultAPIBaseURL : String := "https://api.unitechio.space"

/-- `callBootstrapAPI`: only a 200 answer whose body decodes is a response. -/
def callBootstrapAPI : BootstrapOutcome → Except GoError BootstrapResponse
  | .requestFails err => .error (err.wrap "failed to create request")
  | .transportFails err => .error (err.wrap "HTTP request failed")
  | .answered status body decoded =>
    if status ≠ 200 then
      .error (GoError.new ("bootstrap failed with status " ++ toString status ++ ": " ++ body))
    else
      match decoded with
      | .error err => .error (err.wrap "failed to decode response")
      | .ok resp => .ok (if resp.apiBaseURL = "" then { resp with apiBaseURL := defaultAPIBaseURL } else resp)

/-- The loop of `RetryWithBackoff` with `MaxAttempts` 10, `remaining` attempts left: every
attempt calls the bootstrap API, and every failure but the last waits unless the context is
done first. -/
def retryBootstrap (env : SupervisorEnv) (request : BootstrapRequest) :
    Nat → World → Except GoError BootstrapResponse × World
  | 0, w => (.error (GoError.new "max retry attempts (10) exceeded"), w)
  | remaining + 1, w =>
    let outcome := env.bootstrap w.calls.length
    let w := { w with calls := w.calls ++ [request] }
    match callBootstrapAPI outcome with
    | .ok resp => (.ok resp, w)
    | .error err =>
      if remaining = 0 then (.error (err.wrap "max retry attempts (10) exceeded"), w)
      else
        match env.cancelled w.waits with
        | some ctxErr => (.error (ctxErr.wrap "retry cancelled"), { w with waits := w.waits + 1 })
        | none => retryBootstrap env request remaining { w with waits := w.waits + 1 }

/-- `RunBootstrap(ctx, cfg)`. -/
def runBootstrap (env : SupervisorEnv) (cfg : Config) (w : World) : Except GoError Config × World :=
  match cfg.validateBootstrap with
  | .error err => (.error (err.wrap "bootstrap validation failed"), w)
  | .ok () =>
    match Manager.new env cfg with
    | .error err => (.error (err.wrap "failed to create identity manager"), w)
    | .ok manager =>
      let request : BootstrapRequest :=
        ⟨cfg.orgID, cfg.installToken, env.hostname, env.os, env.arch, "1.0.0"⟩
      match retryBootstrap env request 10 w with
      | (.error err, w) => (.error (err.wrap "bootstrap failed after retries"), w)
      | (.ok resp, w) =>
        match manager.saveCertificates env resp w with
        | (.error err, w) => (.error (err.wrap "failed to save certificates"), w)
        | (.ok (), w) => (.ok (cfg.markBootstrapped resp.agentID resp.apiBaseURL), w)

end EndpointAgent
