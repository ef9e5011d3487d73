import EndpointAgent.Buffer
import EndpointAgent.Json.Decode

/-!
# Telemetry sender

`internal/sender` (`Sender`): `Send` queues one record per batch and flushes once the queue
holds `BatchSize` batches; the goroutine of `Start` flushes on every tick. Both hold `s.mu`,
so a run is a sequence of these calls. A flush posts the queue's records as one combined
batch, retrying up to five times; on failure it writes that batch to the buffer, on success
it clears the queue and replays the buffered files.

The world each call meets is explicit: the agent ID and clock readings, every POST's
outcome, whether the context is done when a retry wait ends, and the outcomes of the buffer's
file-system calls. `delivered` is the server's side: every batch it answered 200 or 201.
-/

set_option autoImplicit false

namespace EndpointAgent

/-- How one `client.Do` of `sendBatch` ends. -/
inductive PostOutcome where
  /-- `http.NewRequestWithContext` failed. -/
  | requestFails (err : GoError)
  /-- `client.Do` failed. -/
  | transportFails (err : GoError)
  /-- The server answered with this status and body. -/
  | answered (status : Nat) (body : String)

/-- What the world does during one flush. -/
structure FlushEnv where
  /-- `s.identity.GetAgentID()`. -/
  agentID : Bytes
  /-- `time.Now()` for the combined batch. -/
  now : Time
  /-- The POST of retry attempt `i` (0 to 4). -/
  attempt : Nat → PostOutcome
  /-- `ctx.Err()` when the context is done as the wait before attempt `i` ends, else `none`. -/
  cancelled : Nat → Option GoError
  /-- The clock reading that names the buffer file, and how its `os.WriteFile` ends. -/
  fileClock : Int
  write : WriteOutcome
  /-- The file-system outcomes of `ReadAll` and `Clear`. -/
  readFaults : Faults
  clearFaults : Faults
  /-- The POST replaying the `j`-th buffered file. -/
  replay : Nat → PostOutcome

/-- The sender, its buffer, and the batches the server has accepted. -/
structure Pipeline where
  batchSize : Int
  queue : List TelemetryBatch
  buffer : Buffer
  delivered : List TelemetryBatch

namespace Pipeline

/-- `NewSender`, over a buffer `buffer.New` returned. -/
def new (batchSize : Int) (buffer : Buffer) : Pipeline := ⟨batchSize, [], buffer, []⟩

/-- `sendBatch`: the batch is marshalled and posted; 200 and 201 are success. -/
def sendBatch (batch : TelemetryBatch) (outcome : PostOutcome) : Except GoError Unit :=
  match batch.marshal with
  | .error err => .error (err.wrap "failed to marshal batch")
  | .ok _ =>
    match outcome with
    | .requestFails err => .error (err.wrap "failed to create request")
    | .transportFails err => .error (err.wrap "HTTP request failed")
    | .answered status body =>
      if status = 200 ∨ status = 201 then .ok ()
      else .error (GoError.new ("server returned status " ++ toString status ++ ": " ++ body))

/-- The loop of `sendWithRetry` from attempt `attempt` on, `remaining` attempts left, with
the last error so far. Before every attempt but the first, the context may be done. -/
def retry (batch : TelemetryBatch) (env : FlushEnv) : Nat → Nat → Option GoError → Except GoError Unit
  | 0, _, lastErr =>
    .error (GoError.wrap "all retry attempts failed" (lastErr.getD (GoError.new "<nil>")))
  | remaining + 1, attempt, _ =>
    match (if attempt = 0 then none else env.cancelled attempt) with
    | some err => .error err
    | none =>
      match sendBatch batch (env.attempt attempt) with
      | .ok () => .ok ()
      | .error err => retry batch env remaining (attempt + 1) (some err)

/-- `sendWithRetry`: at most five attempts. -/
def sendWithRetry (batch : TelemetryBatch) (env : FlushEnv) : Except GoError Unit :=
  retry batch env 5 0 none

/-- The loop of `flushBuffer` over the files `ReadAll` returned, from file `j` on: a file that
does not decode is skipped, a failed send stops the loop (`false`), and every batch sent
reaches the server. -/
def replayFiles (env : FlushEnv) : Nat → List Bytes → List TelemetryBatch → Bool × List TelemetryBatch
  | _, [], delivered => (true, delivered)
  | j, data :: rest, delivered =>
    match TelemetryBatch.unmarshal data with
    | .error _ => replayFiles env (j + 1) rest delivered
    | .ok batch =>
      match sendBatch batch (env.replay j) with
      | .error _ => (false, delivered)
      | .ok () => replayFiles env (j + 1) rest (delivered ++ [batch])

/-- `flushBuffer`: replay every buffered file, then `Clear` the buffer unless a send failed.
A failed `ReadAll` or an empty buffer does nothing. -/
def flushBuffer (p : Pipeline) (env : FlushEnv) : Pipeline :=
  match p.buffer.readAll env.readFaults with
  | .error _ => p
  | .ok [] => p
  | .ok files =>
    match replayFiles env 0 files p.delivered with
    | (false, delivered) => { p with delivered }
    | (true, delivered) => { p with delivered, buffer := (p.buffer.clear env.clearFaults).2 }

/-- The records of some batches, in order. -/
def records (batches : List TelemetryBatch) : List Json.Record :=
  batches.flatMap fun batch => batch.data.getD []

/-- The batch `flush` combines from the queue. -/
def combine (queue : List TelemetryBatch) (env : FlushEnv) : TelemetryBatch :=
  ⟨env.agentID, env.now, some (records queue)⟩

/-- `flush`. A failed send buffers the combined batch and leaves the queue as it was; a
successful one clears the queue and replays the buffer. -/
def flush (p : Pipeline) (env : FlushEnv) : Except GoError Unit × Pipeline :=
  if p.queue.isEmpty then (.ok (), p)
  else
    let combined := combine p.queue env
    match sendWithRetry combined env with
    | .error err =>
      match p.buffer.write combined.marshal env.fileClock env.write with
      | (.error bufErr, buffer) => (.error (bufErr.wrap "send failed and buffer failed"), { p with buffer })
      | (.ok (), buffer) => (.error err, { p with buffer })
    | .ok () =>
      (.ok (), flushBuffer { p with queue := [], delivered := p.delivered ++ [combined] } env)

/-- `Send(ctx, data)`: queue a one-record batch, and flush once `BatchSize` batches wait. -/
def send (p : Pipeline) (data : Json.Record) (agentID : Bytes) (now : Time) (env : FlushEnv) :
    Except GoError Unit × Pipeline :=
  let p := { p with queue := p.queue ++ [⟨agentID, now, some [data]⟩] }
  if p.batchSize ≤ p.queue.length then p.flush env else (.ok (), p)

end Pipeline

/-- A call on the sender with the world it meets. -/
inductive SenderEvent where
  /-- `Send` of one record, with `GetAgentID()` and `time.Now()` for its batch. -/
  | send (data : Json.Record) (agentID : Bytes) (now : Time) (env : FlushEnv)
  /-- A tick of `Start`'s ticker. -/
  | tick (env : FlushEnv)

namespace Pipeline

/-- One call. -/
def step (p : Pipeline) : SenderEvent → Pipeline
  | .send data agentID now env => (p.send data agentID now env).2
  | .tick env => (p.flush env).2

/-- Calls one after another. -/
def run (p : Pipeline) (events : List SenderEvent) : Pipeline := events.foldl step p

@[simp] theorem run_nil (p : Pipeline) : p.run [] = p := rfl

@[simp] theorem run_cons (p : Pipeline) (event : SenderEvent) (events : List SenderEvent) :
    p.run (event :: events) = (p.step event).run events := rfl

end Pipeline

end EndpointAgent
