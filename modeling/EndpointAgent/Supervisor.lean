import EndpointAgent.Identity

/-!
# Agent startup

`run` in `cmd/agent/main.go`, from loading the configuration up to the run loop: the
bootstrap path when no configuration file exists, the runtime validation, the identity
manager, the re-bootstrap when `NeedsRebootstrap` holds, and the identity check. The policy
engine, the health monitor and the scheduler that follow cannot fail, so a run that passes
the identity check reaches the loop.
-/

set_option autoImplicit false

namespace EndpointAgent

/-- Where `run` ends: it returns an error, or it reaches its loop with a configuration. -/
inductive RunOutcome where
  | returned (err : GoError)
  | running (cfg : Config)
  deriving DecidableEq

namespace Supervisor

variable (env : SupervisorEnv)

/-- `config.Load(path)`. A missing file is `ErrConfigNotFound`. -/
def load (w : World) : Except GoError Config :=
  match w.readFile env env.configPath with
  | .missing => .error (GoError.ofSentinel .configNotFound)
  | .failed err => .error (err.wrap "failed to read config file")
  | .read data =>
    match Config.unmarshal data with
    | .error err => .error (err.wrap "failed to parse config")
    | .ok cfg => .ok (cfg.fillFromEnvironment env.environ)

/-- `Config.Save(path)`. -/
def save (cfg : Config) (w : World) : Except GoError Unit × World :=
  match env.mkdirAll (parentDir env.configPath) with
  | some err => (.error (err.wrap "failed to create config directory"), w)
  | none =>
    match w.writeFile env env.configPath cfg.marshalIndent with
    | (.error err, w) => (.error (err.wrap "failed to write config file"), w)
    | (.ok (), w) => (.ok (), w)

/-- Steps 2 to 5: no configuration file, so bootstrap from the environment and save. -/
def firstBootstrap (w : World) : Except GoError Config × World :=
  let cfg := Config.newBootstrapConfig env.environ
  match cfg.validateBootstrap with
  | .error err =>
    (.error ⟨err.sentinel, "bootstrap validation failed: " ++ err.text ++
      "\nPlease set ORG_ID and INSTALL_TOKEN environment variables"⟩, w)
  | .ok () =>
    match runBootstrap env cfg w with
    | (.error err, w) => (.error (err.wrap "bootstrap failed"), w)
    | (.ok cfg, w) =>
      match save env cfg w with
      | (.error err, w) => (.error (err.wrap "failed to save config"), w)
      | (.ok (), w) => (.ok cfg, w)

/-- Step 9 when `NeedsRebootstrap` holds: bootstrap again, save (a failure is only a
warning), and make a new manager. -/
def rebootstrap (cfg : Config) (w : World) : Except GoError (Config × Manager) × World :=
  match runBootstrap env { cfg with bootstrapped := false } w with
  | (.error err, w) => (.error (err.wrap "re-bootstrap failed"), w)
  | (.ok cfg, w) =>
    let w := match save env cfg w with
      | (.error err, w) => { w with warnings := w.warnings ++ [err] }
      | (.ok (), w) => w
    match Manager.new env cfg with
    | .error err => (.error (err.wrap "failed to recreate identity manager"), w)
    | .ok manager => (.ok (cfg, manager), w)

/-- Steps 7 to 13 with a configuration in hand. -/
def start (cfg : Config) (w : World) : RunOutcome × World :=
  match cfg.validateRuntime with
  | .error err => (.returned (err.wrap "invalid runtime configuration"), w)
  | .ok () =>
    match Manager.new env cfg with
    | .error err => (.returned (err.wrap "failed to create identity manager"), w)
    | .ok manager =>
      let renewed : Except GoError (Config × Manager) × World :=
        if manager.needsRebootstrap env w then rebootstrap env cfg w else (.ok (cfg, manager), w)
      match renewed with
      | (.error err, w) => (.returned err, w)
      | (.ok (cfg, manager), w) =>
        match manager.verifyIdentity env w with
        | .error err => (.returned (err.wrap "identity verification failed"), w)
        | .ok _ => (.running cfg, w)

/-- `run(ctx, configPath, logger)` up to its loop. -/
def run (w : World) : RunOutcome × World :=
  match load env w with
  | .ok cfg => start env cfg w
  | .error err =>
    if err.is .configNotFound then
      match firstBootstrap env w with
      | (.error err, w) => (.returned err, w)
      | (.ok cfg, w) => start env cfg w
    else (.returned (err.wrap "failed to load configuration"), w)

end Supervisor

end EndpointAgent
