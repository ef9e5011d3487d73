import EndpointAgent.Sender

/-!
# What the sender keeps and what it duplicates

The queue only empties when the server has accepted a batch holding all its records, so no
record is lost on the live path. The failure path keeps the queue as well as buffering it:
the same records then wait in memory and on disk, and the queue grows with every `Send`
for as long as the server refuses.
-/

set_option autoImplicit false

namespace EndpointAgent

/-- A POST that does not end in a 200 or 201 answer. -/
def PostOutcome.Refused : PostOutcome → Prop
  | .answered status _ => status ≠ 200 ∧ status ≠ 201
  | _ => True

/-- A flush during which every POST of the retry loop is refused. -/
def FlushEnv.Outage (env : FlushEnv) : Prop := ∀ i, (env.attempt i).Refused

/-- The world of a call. -/
def SenderEvent.env : SenderEvent → FlushEnv
  | .send _ _ _ env => env
  | .tick env => env

/-- The record a call passes to `Send`. -/
def SenderEvent.record? : SenderEvent → Option Json.Record
  | .send data _ _ _ => some data
  | .tick _ => none

/-- A call to `Send`. -/
def SenderEvent.IsSend (event : SenderEvent) : Prop := event.record?.isSome

instance (event : SenderEvent) : Decidable event.IsSend := inferInstanceAs (Decidable (_ = true))

namespace Pipeline

/-! ## Sending -/

private theorem sendBatch_ne_ok {outcome : PostOutcome} (refused : outcome.Refused) (batch : TelemetryBatch) :
    sendBatch batch outcome ≠ .ok () := by
  unfold sendBatch
  split
  · simp
  · cases outcome with
    | requestFails => simp
    | transportFails => simp
    | answered status body => simp only [PostOutcome.Refused] at refused; simp [refused]

private theorem retry_ne_ok {env : FlushEnv} (outage : env.Outage) (batch : TelemetryBatch) :
    ∀ remaining attempt lastErr, retry batch env remaining attempt lastErr ≠ .ok () := by
  intro remaining
  induction remaining with
  | zero => intro attempt lastErr; simp [retry]
  | succ remaining ih =>
    intro attempt lastErr
    unfold retry
    split
    · simp
    · split
      · exact absurd ‹_› (sendBatch_ne_ok (outage attempt) batch)
      · exact ih _ _

/-- During an outage the retry loop fails, whatever the context does. -/
theorem sendWithRetry_ne_ok {env : FlushEnv} (outage : env.Outage) (batch : TelemetryBatch) :
    sendWithRetry batch env ≠ .ok () :=
  retry_ne_ok outage batch 5 0 none

/-! ## Replaying the buffer -/

/-- Replaying only adds batches to what the server holds. -/
private theorem replayFiles_delivered (env : FlushEnv) (j : Nat) (files : List Bytes)
    (delivered : List TelemetryBatch) :
    ∃ more, (replayFiles env j files delivered).2 = delivered ++ more := by
  induction files generalizing j delivered with
  | nil => exact ⟨[], by simp [replayFiles]⟩
  | cons data rest ih =>
    unfold replayFiles
    split
    · exact ih _ _
    · rename_i batch _
      split
      · exact ⟨[], by simp⟩
      · obtain ⟨more, replayed⟩ := ih (j + 1) (delivered ++ [batch])
        exact ⟨batch :: more, by simp [replayed]⟩

/-- `flushBuffer` leaves the queue alone and only adds to what the server holds. -/
private theorem flushBuffer_spec (p : Pipeline) (env : FlushEnv) :
    (p.flushBuffer env).queue = p.queue ∧ (p.flushBuffer env).batchSize = p.batchSize ∧
      ∃ more, (p.flushBuffer env).delivered = p.delivered ++ more := by
  unfold flushBuffer
  split
  · exact ⟨rfl, rfl, [], by simp⟩
  · exact ⟨rfl, rfl, [], by simp⟩
  · obtain ⟨more, replayed⟩ := replayFiles_delivered env 0 ‹List Bytes› p.delivered
    split <;> simp_all

/-! ## Flushing -/

/-- Every way a flush can end: an empty queue does nothing; a failed send leaves queue and
server as they were and buffers the combined batch; a successful one hands the combined
batch to the server, empties the queue and replays the buffer. -/
private theorem flush_cases (p : Pipeline) (env : FlushEnv) :
    (p.queue = [] ∧ p.flush env = (.ok (), p)) ∨
    (p.queue ≠ [] ∧ sendWithRetry (combine p.queue env) env ≠ .ok () ∧
      (p.flush env).2 =
        { p with buffer := (p.buffer.write (combine p.queue env).marshal env.fileClock env.write).2 }) ∨
    (p.queue ≠ [] ∧ sendWithRetry (combine p.queue env) env = .ok () ∧
      (p.flush env).2 =
        flushBuffer { p with queue := [], delivered := p.delivered ++ [combine p.queue env] } env) := by
  unfold flush
  by_cases empty : p.queue = []
  · exact .inl ⟨empty, by simp [empty]⟩
  · have pending : p.queue.isEmpty = false := by simpa using empty
    simp only [pending, Bool.false_eq_true, if_false]
    cases sent : sendWithRetry (combine p.queue env) env with
    | error err =>
      refine .inr (.inl ⟨empty, by simp, ?_⟩)
      dsimp only
      generalize p.buffer.write (combine p.queue env).marshal env.fileClock env.write = written
      obtain ⟨result, buffer⟩ := written
      cases result <;> rfl
    | ok u => exact .inr (.inr ⟨empty, rfl, rfl⟩)

@[simp] theorem flush_batchSize (p : Pipeline) (env : FlushEnv) :
    (p.flush env).2.batchSize = p.batchSize := by
  rcases flush_cases p env with ⟨-, same⟩ | ⟨-, -, failed⟩ | ⟨-, -, sent⟩
  · rw [same]
  · rw [failed]
  · rw [sent, (flushBuffer_spec _ env).2.1]

/-- During an outage a flush keeps every queued batch. -/
private theorem flush_queue_of_outage (p : Pipeline) {env : FlushEnv} (outage : env.Outage) :
    (p.flush env).2.queue = p.queue := by
  rcases flush_cases p env with ⟨-, same⟩ | ⟨-, -, failed⟩ | ⟨-, sent, -⟩
  · rw [same]
  · rw [failed]
  · exact absurd sent (sendWithRetry_ne_ok outage _)

/-! ## No record is lost on the live path -/

/-- The records of a state that cannot be lost: waiting in the queue, or accepted by the
server. -/
def kept (p : Pipeline) : List Json.Record := records p.queue ++ records p.delivered

private theorem flush_kept (p : Pipeline) (env : FlushEnv) {record : Json.Record} (held : record ∈ p.kept) :
    record ∈ (p.flush env).2.kept := by
  rcases flush_cases p env with ⟨-, same⟩ | ⟨-, -, failed⟩ | ⟨-, -, sent⟩
  · rwa [same]
  · rwa [failed]
  · obtain ⟨queue, -, more, replayed⟩ := flushBuffer_spec
      { p with queue := [], delivered := p.delivered ++ [combine p.queue env] } env
    rw [sent]
    unfold kept at held ⊢
    rw [queue, replayed]
    simp only [records, List.flatMap_nil, List.flatMap_append, List.nil_append, List.mem_append,
      List.flatMap_cons, List.flatMap_nil, List.append_nil, combine, Option.getD_some] at held ⊢
    tauto

private theorem send_kept (p : Pipeline) (data : Json.Record) (agentID : Bytes) (now : Time)
    (env : FlushEnv) {record : Json.Record} (held : record ∈ p.kept ∨ record = data) :
    record ∈ (p.send data agentID now env).2.kept := by
  have queued : record ∈ ({ p with queue := p.queue ++ [⟨agentID, now, some [data]⟩] } : Pipeline).kept := by
    unfold kept at held ⊢
    simp only [records, List.flatMap_append, List.mem_append, List.flatMap_cons, List.flatMap_nil,
      List.append_nil, Option.getD_some, List.mem_singleton] at held ⊢
    tauto
  unfold send
  dsimp only
  split
  · exact flush_kept _ env queued
  · exact queued

/-- Every record passed to `Send`, and every record already waiting or accepted, is after
every later call still waiting in the queue or accepted by the server. -/
theorem run_kept (p : Pipeline) (events : List SenderEvent) {record : Json.Record}
    (held : record ∈ p.kept ∨ ∃ event ∈ events, event.record? = some record) :
    record ∈ (p.run events).kept := by
  induction events generalizing p with
  | nil => simpa using held
  | cons event rest ih =>
    apply ih
    rcases held with held | ⟨sent, member, named⟩
    · left
      cases event with
      | send data agentID now env => exact send_kept p data agentID now env (.inl held)
      | tick env => exact flush_kept p env held
    · rcases List.mem_cons.mp member with rfl | later
      · left
        cases sent with
        | send data agentID now env =>
          cases named
          exact send_kept p _ agentID now env (.inr rfl)
        | tick env => cases named
      · exact .inr ⟨sent, later, named⟩

/-! ## The failure path duplicates -/

/-- A flush whose sends all fail and whose buffer write completes leaves every record in
the queue and also stores them on disk: the buffered file is the encoding of a batch holding
exactly the queue's records. -/
theorem failed_flush_queues_and_buffers (p : Pipeline) {env : FlushEnv} (outage : env.Outage)
    (pending : p.queue ≠ []) {body : Bytes} (encoded : (combine p.queue env).marshal = .ok body)
    (fits : p.buffer.currentSize + body.length ≤ p.buffer.maxSize) {modTime : Int}
    (complete : env.write = .complete modTime)
    (notDir : ∀ size, p.buffer.disk.entry? (batchFileName env.fileClock) ≠ some (.dir size)) :
    (p.flush env).2.queue = p.queue ∧
      ∃ batch : TelemetryBatch, batch.data = some (records p.queue) ∧ batch.marshal = .ok body ∧
        (p.flush env).2.buffer.disk.entry? (batchFileName env.fileClock) = some (.file body modTime) := by
  rcases flush_cases p env with ⟨empty, -⟩ | ⟨-, -, failed⟩ | ⟨-, sent, -⟩
  · exact absurd empty pending
  · refine ⟨by rw [failed], combine p.queue env, rfl, encoded, ?_⟩
    rw [failed, encoded, complete, Buffer.write_complete _ _ fits notDir]
    exact Directory.entry?_put_self _ _ _
  · exact absurd sent (sendWithRetry_ne_ok outage _)

/-- An empty buffer with room for a megabyte. -/
def emptyBuffer : Buffer := ⟨1048576, 0, ⟨[], by decide⟩⟩

/-- A flush during which the server answers 503 to every POST and the buffer write
completes. -/
def unavailable : FlushEnv where
  agentID := asciiBytes "agent-1"
  now := Time.zero
  attempt := fun _ => .answered 503 "unavailable"
  cancelled := fun _ => none
  fileClock := 1
  write := .complete 0
  readFaults := Faults.none
  clearFaults := Faults.none
  replay := fun _ => .answered 503 "unavailable"

theorem unavailable_outage : unavailable.Outage := fun _ => ⟨by decide, by decide⟩

/-- One record, `{"cpu": 42}`. -/
def cpuRecord : Json.Record := some [(asciiBytes "cpu", .int 42)]

/-- `BatchSize` 1 and one `Send` of `{"cpu": 42}` while the server answers 503: the flush
keeps the record queued and writes it to `batch_1.json` as well. -/
theorem failed_flush_queues_and_buffers_cpu :
    (combine [⟨asciiBytes "agent-1", Time.zero, some [cpuRecord]⟩] unavailable).marshal =
        .ok (asciiBytes "\x7b\"agent_id\":\"agent-1\",\"timestamp\":\"0001-01-01T00:00:00Z\",\"data\":[\x7b\"cpu\":42\x7d]\x7d") ∧
      ((new 1 emptyBuffer).send cpuRecord (asciiBytes "agent-1") Time.zero unavailable).2.queue =
        [⟨asciiBytes "agent-1", Time.zero, some [cpuRecord]⟩] ∧
      ∃ batch : TelemetryBatch, batch.data = some [cpuRecord] ∧
        batch.marshal = .ok (asciiBytes "\x7b\"agent_id\":\"agent-1\",\"timestamp\":\"0001-01-01T00:00:00Z\",\"data\":[\x7b\"cpu\":42\x7d]\x7d") ∧
        ((new 1 emptyBuffer).send cpuRecord (asciiBytes "agent-1") Time.zero unavailable).2.buffer.disk.entry?
          (batchFileName 1) =
          some (.file (asciiBytes "\x7b\"agent_id\":\"agent-1\",\"timestamp\":\"0001-01-01T00:00:00Z\",\"data\":[\x7b\"cpu\":42\x7d]\x7d") 0) :=
  ⟨rfl, failed_flush_queues_and_buffers ⟨1, [⟨asciiBytes "agent-1", Time.zero, some [cpuRecord]⟩], emptyBuffer, []⟩
    unavailable_outage (by simp) rfl (by decide) rfl (by simp [Directory.entry?, emptyBuffer])⟩

/-- A record sent while the server is unavailable is still queued afterwards. -/
theorem run_kept_unavailable :
    cpuRecord ∈ ((new 1 emptyBuffer).run [.send cpuRecord (asciiBytes "agent-1") Time.zero unavailable]).kept :=
  run_kept _ _ (.inr ⟨_, List.mem_singleton_self _, rfl⟩)

/-! ## The queue during an outage -/

private theorem step_queue_of_outage (p : Pipeline) (event : SenderEvent) (outage : event.env.Outage) :
    (p.step event).queue.length = p.queue.length + if event.IsSend then 1 else 0 := by
  cases event with
  | send data agentID now env =>
    simp only [SenderEvent.env] at outage
    simp only [step, send, SenderEvent.IsSend, SenderEvent.record?, Option.isSome_some, if_true]
    split
    · rw [flush_queue_of_outage _ outage]; simp
    · simp
  | tick env =>
    simp only [SenderEvent.env] at outage
    simp [step, SenderEvent.IsSend, SenderEvent.record?, flush_queue_of_outage _ outage]

/-- While every POST is refused, the queue keeps every batch: after any calls it holds one
more for each `Send`, whatever `BatchSize` is. -/
theorem outage_queue_grows (p : Pipeline) (events : List SenderEvent)
    (outage : ∀ event ∈ events, event.env.Outage) :
    (p.run events).queue.length = p.queue.length + (events.filter fun event => event.IsSend).length := by
  induction events generalizing p with
  | nil => simp
  | cons event rest ih =>
    rw [run_cons, ih _ fun later member => outage later (List.mem_cons_of_mem _ member),
      step_queue_of_outage _ _ (outage event (List.mem_cons_self _ _)), List.filter_cons]
    split <;> simp_all; omega

/-- `BatchSize` 1 and one `Send` while the server answers 503: the queue holds one batch,
as many as `BatchSize`. -/
theorem outage_queue_grows_cpu :
    (∀ event ∈ [SenderEvent.send cpuRecord (asciiBytes "agent-1") Time.zero unavailable],
        event.env.Outage) ∧
      ((new 1 emptyBuffer).run [.send cpuRecord (asciiBytes "agent-1") Time.zero unavailable]).queue.length =
        0 + 1 :=
  ⟨fun _ member => by simp only [List.mem_singleton] at member; subst member; exact unavailable_outage,
    outage_queue_grows _ _ fun _ member => by
      simp only [List.mem_singleton] at member; subst member; exact unavailable_outage⟩

end Pipeline

end EndpointAgent
