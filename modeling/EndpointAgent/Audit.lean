import EndpointAgent.Json.Compact

/-!
# Audit log

`logging.AuditLogger`: `LogEvent` stamps an event with the clock, and with the logger's agent
ID when the event has none, encodes it with `json.Marshal`, and appends the encoding and a
newline to the audit file in one `Write`, then calls `Sync`. The convenience constructors fill
in an event and call `LogEvent`, dropping its error. The file is the bytes it holds. The file
was opened with `O_APPEND`, so a `Write` adds at the end, and a failed `Write` may already
have added the first bytes of what it was given.
-/

set_option autoImplicit false

namespace EndpointAgent

open Json

/-- `logging.AuditEvent`. Strings are Go strings; `details` is the
`map[string]interface{}`, `none` for a nil map. -/
structure AuditEvent where
  timestamp : Time := Time.zero
  eventType : Bytes := []
  severity : Bytes := []
  agentID : Bytes := []
  userID : Bytes := []
  action : Bytes := []
  resource : Bytes := []
  result : Bytes := []
  details : Record := none
  sourceIP : Bytes := []
  errorMsg : Bytes := []

namespace AuditEvent

/-- A string field tagged `omitempty`: no member for the empty string. -/
def optionalMember (key : String) (value : Bytes) : List (List Char × Except GoError Bytes) :=
  if value = [] then [] else [(key.data, .ok (quote value))]

/-- The `details` member: `omitempty` drops a nil or empty map. -/
def detailsMember : Record → List (List Char × Except GoError Bytes)
  | none | some [] => []
  | some (field :: fields) => [("details".data, encode (.object (field :: fields)))]

/-- The members `json.Marshal` writes for an event, in declaration order under their tags. -/
def members (e : AuditEvent) : List (List Char × Except GoError Bytes) :=
  [("timestamp".data, e.timestamp.marshalJSON), ("event_type".data, .ok (quote e.eventType)),
      ("severity".data, .ok (quote e.severity))] ++
    optionalMember "agent_id" e.agentID ++ optionalMember "user_id" e.userID ++
    [("action".data, .ok (quote e.action))] ++ optionalMember "resource" e.resource ++
    [("result".data, .ok (quote e.result))] ++ detailsMember e.details ++
    optionalMember "source_ip" e.sourceIP ++ optionalMember "error_msg" e.errorMsg

/-- `json.Marshal(event)`: an object of the members; the first that cannot be encoded is the
error. -/
def marshal (e : AuditEvent) : Except GoError Bytes :=
  (collect (e.members.map fun member => member.2.map fun value => memberText (member.1, value))).map
    (enclose '{' '}')

end AuditEvent

/-- `err.Error()` as a Go string. -/
def errorText (err : GoError) : Bytes := Utf8.encode err.text.data

/-- `t.Format(time.RFC3339)`: `appendFormatRFC3339(b, false)`, without the fraction of a
second. -/
def formatRFC3339Seconds (t : Time) : List Char :=
  Time.appendInt t.year 4 ++ '-' :: Time.appendInt t.month 2 ++ '-' :: Time.appendInt t.day 2 ++
    'T' :: Time.appendInt t.hour 2 ++ ':' :: Time.appendInt t.minute 2 ++ ':' ::
    Time.appendInt t.second 2 ++ Time.appendZone t.offset

/-- How the `Write` of the line and the `Sync` after it end: the whole line written and the
error of `Sync`, or the number of bytes written before the error of `Write`. -/
inductive AuditWrite where
  | complete (sync : Option GoError)
  | failed (written : Nat) (err : GoError)

/-- An `AuditLogger` with the contents of its file. -/
structure AuditLogger where
  agentID : Bytes
  file : Bytes

namespace AuditLogger

/-- The event as `LogEvent` encodes it: stamped with the clock reading, and with the logger's
agent ID when it has none. -/
def stamp (a : AuditLogger) (now : Time) (event : AuditEvent) : AuditEvent :=
  { event with timestamp := now, agentID := if event.agentID = [] then a.agentID else event.agentID }

/-- `LogEvent` at clock reading `now`, with `outcome` the outcome of its `Write` and `Sync`. -/
def logEvent (a : AuditLogger) (now : Time) (event : AuditEvent) (outcome : AuditWrite) :
    Except GoError Unit × AuditLogger :=
  match (a.stamp now event).marshal with
  | .error err => (.error (err.wrap "failed to marshal audit event"), a)
  | .ok data =>
    match outcome with
    | .complete sync =>
      (match sync with
        | none => .ok ()
        | some err => .error err, { a with file := a.file ++ data ++ [ascii '\n'] })
    | .failed written err =>
      (.error (err.wrap "failed to write audit event"), { a with file := a.file ++ (data ++ [ascii '\n']).take written })

/-! ## The convenience constructors -/

/-- The failure branch the constructors share: result `failure`, severity `ERROR`, and the
error's text when there is an error. -/
def withFailure (success : Bool) (err : Option GoError) (event : AuditEvent) : AuditEvent :=
  if success then event
  else
    { event with result := asciiBytes "failure", severity := asciiBytes "ERROR"
                 errorMsg := match err with
                   | some err => errorText err
                   | none => event.errorMsg }

/-- The `details` of a version change. -/
def versionDetails (oldVersion newVersion : Bytes) : Record :=
  some [(asciiBytes "old_version", .string oldVersion), (asciiBytes "new_version", .string newVersion)]

def bootstrapEvent (success : Bool) (orgID : Bytes) (err : Option GoError) : AuditEvent :=
  withFailure success err
    { eventType := asciiBytes "bootstrap", severity := asciiBytes "INFO", action := asciiBytes "agent_registration",
      resource := orgID, result := asciiBytes "success" }

def policyChangeEvent (oldVersion newVersion : Bytes) : AuditEvent :=
  { eventType := asciiBytes "policy_change", severity := asciiBytes "INFO", action := asciiBytes "policy_update",
    result := asciiBytes "success", details := versionDetails oldVersion newVersion }

def updateEvent (oldVersion newVersion : Bytes) (success : Bool) (err : Option GoError) : AuditEvent :=
  withFailure success err
    { eventType := asciiBytes "agent_update", severity := asciiBytes "INFO", action := asciiBytes "binary_update",
      result := asciiBytes "success", details := versionDetails oldVersion newVersion }

def authFailureEvent (endpoint reason : Bytes) : AuditEvent :=
  { eventType := asciiBytes "auth_failure", severity := asciiBytes "WARNING", action := asciiBytes "authentication",
    resource := endpoint, result := asciiBytes "failure", errorMsg := reason }

def certRotationEvent (success : Bool) (expiryDate : Time) (err : Option GoError) : AuditEvent :=
  withFailure success err
    { eventType := asciiBytes "cert_rotation", severity := asciiBytes "INFO",
      action := asciiBytes "certificate_renewal", result := asciiBytes "success",
      details := some [(asciiBytes "new_expiry", .string ((formatRFC3339Seconds expiryDate).map ascii))] }

def serviceStartEvent (version : Bytes) : AuditEvent :=
  { eventType := asciiBytes "service_lifecycle", severity := asciiBytes "INFO", action := asciiBytes "service_start",
    result := asciiBytes "success", details := some [(asciiBytes "version", .string version)] }

def serviceStopEvent (reason : Bytes) : AuditEvent :=
  { eventType := asciiBytes "service_lifecycle", severity := asciiBytes "INFO", action := asciiBytes "service_stop",
    result := asciiBytes "success", details := some [(asciiBytes "reason", .string reason)] }

variable (a : AuditLogger) (now : Time) (outcome : AuditWrite)

def logBootstrap (success : Bool) (orgID : Bytes) (err : Option GoError) : AuditLogger :=
  (a.logEvent now (bootstrapEvent success orgID err) outcome).2

def logPolicyChange (oldVersion newVersion : Bytes) : AuditLogger :=
  (a.logEvent now (policyChangeEvent oldVersion newVersion) outcome).2

def logUpdate (oldVersion newVersion : Bytes) (success : Bool) (err : Option GoError) : AuditLogger :=
  (a.logEvent now (updateEvent oldVersion newVersion success err) outcome).2

def logAuthFailure (endpoint reason : Bytes) : AuditLogger :=
  (a.logEvent now (authFailureEvent endpoint reason) outcome).2

def logCertRotation (success : Bool) (expiryDate : Time) (err : Option GoError) : AuditLogger :=
  (a.logEvent now (certRotationEvent success expiryDate err) outcome).2

def logServiceStart (version : Bytes) : AuditLogger :=
  (a.logEvent now (serviceStartEvent version) outcome).2

def logServiceStop (reason : Bytes) : AuditLogger :=
  (a.logEvent now (serviceStopEvent reason) outcome).2

/-! ## Runs -/

/-- One `LogEvent` call: the clock reading, the event, and how its write ends. -/
structure AuditCall where
  now : Time
  event : AuditEvent
  outcome : AuditWrite

/-- The logger after some `LogEvent` calls, one after another as its mutex orders them. -/
def run (a : AuditLogger) (calls : List AuditCall) : AuditLogger :=
  calls.foldl (fun a call => (a.logEvent call.now call.event call.outcome).2) a

@[simp] theorem run_nil : a.run [] = a := rfl

@[simp] theorem run_cons (call : AuditCall) (calls : List AuditCall) :
    a.run (call :: calls) = (a.logEvent call.now call.event call.outcome).2.run calls := rfl

end AuditLogger

end EndpointAgent
