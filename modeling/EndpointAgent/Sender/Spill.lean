import EndpointAgent.Sender.Delivery

/-!
# Spilling to the buffer and draining it

The design spills a batch whose send failed for good into the buffer, pruning the oldest files
first when the buffer is full. It drains the buffer in order after a live send succeeds,
stopping at the first failure. `flush` never calls `Prune`: against a full buffer the refused
batch is simply not stored. `flushBuffer` stops at the first refused batch and clears nothing,
so a batch the server always refuses holds back, on every drain, the batches after it.
-/

set_option autoImplicit false

namespace EndpointAgent

namespace Pipeline

/-! ## A failed send against a full buffer -/

/-- The error `Buffer.Write` returns when the data does not fit what is left. -/
def bufferFull (b : Buffer) : GoError :=
  GoError.new ("buffer full (current: " ++ toString b.currentSize ++ ", max: " ++ toString b.maxSize ++ ")")

/-- A flush whose send fails, with a combined batch that does not fit the room left in the
buffer, changes nothing: no file is pruned and none is written, and the batch is only kept in
the queue. This holds in particular for a batch within the buffer's limit. -/
theorem full_buffer_refuses_spill (p : Pipeline) (env : FlushEnv) (pending : p.queue ≠ [])
    (failed : sendWithRetry (combine p.queue env) env ≠ .ok ()) {body : Bytes}
    (encoded : (combine p.queue env).marshal = .ok body)
    (full : p.buffer.maxSize < p.buffer.currentSize + body.length) :
    p.flush env = (.error ((bufferFull p.buffer).wrap "send failed and buffer failed"), p) := by
  have waiting : p.queue.isEmpty = false := by simpa using pending
  cases sent : sendWithRetry (combine p.queue env) env with
  | ok u => exact absurd sent failed
  | error err =>
    simp only [flush, waiting, Bool.false_eq_true, if_false, sent, encoded, Buffer.write, gt_iff_lt,
      if_pos full, bufferFull]

/-- A buffer at its limit of 200 bytes, holding one old batch file. -/
def fullBuffer : Buffer := ⟨200, 200, ⟨[("batch_0.json", .file (List.replicate 200 32) 0)], by decide⟩⟩

theorem full_buffer_refuses_spill_cpu :
    (combine [⟨asciiBytes "agent-1", Time.zero, some [cpuRecord]⟩] unavailable).marshal =
        .ok (asciiBytes "\x7b\"agent_id\":\"agent-1\",\"timestamp\":\"0001-01-01T00:00:00Z\",\"data\":[\x7b\"cpu\":42\x7d]\x7d") ∧
      ((asciiBytes "\x7b\"agent_id\":\"agent-1\",\"timestamp\":\"0001-01-01T00:00:00Z\",\"data\":[\x7b\"cpu\":42\x7d]\x7d").length
        : Int) ≤ fullBuffer.maxSize ∧
      (⟨1, [⟨asciiBytes "agent-1", Time.zero, some [cpuRecord]⟩], fullBuffer, []⟩ : Pipeline).flush unavailable =
        (.error ((bufferFull fullBuffer).wrap "send failed and buffer failed"),
          ⟨1, [⟨asciiBytes "agent-1", Time.zero, some [cpuRecord]⟩], fullBuffer, []⟩) :=
  ⟨rfl, by decide, full_buffer_refuses_spill _ unavailable (by simp) (sendWithRetry_ne_ok unavailable_outage _) rfl
    (by decide)⟩

/-! ## Draining up to a refused batch -/

/-- The batches of the files that decode, in order. -/
def decoded (files : List Bytes) : List TelemetryBatch :=
  files.filterMap fun data => (TelemetryBatch.unmarshal data).toOption

/-- Files from position `j` on whose decoded batches are all accepted are replayed one after
another: each decoded batch reaches the server. -/
private theorem replayFiles_accepted (env : FlushEnv) (rest : List Bytes) :
    ∀ (before : List Bytes) (j : Nat) (delivered : List TelemetryBatch),
      (∀ i (lt : i < before.length) batch, TelemetryBatch.unmarshal (before.get ⟨i, lt⟩) = .ok batch →
        sendBatch batch (env.replay (j + i)) = .ok ()) →
      replayFiles env j (before ++ rest) delivered =
        replayFiles env (j + before.length) rest (delivered ++ decoded before)
  | [], j, delivered, _ => by simp [decoded]
  | data :: before, j, delivered, accepted => by
    have later : ∀ i (lt : i < before.length) batch,
        TelemetryBatch.unmarshal (before.get ⟨i, lt⟩) = .ok batch → sendBatch batch (env.replay (j + 1 + i)) = .ok () :=
      fun i lt batch read => by
        rw [Nat.add_assoc, Nat.add_comm 1 i]
        exact accepted (i + 1) (by simp; omega) batch read
    cases read : TelemetryBatch.unmarshal data with
    | error err =>
      rw [List.cons_append, replayFiles, read]
      simp only [replayFiles_accepted env rest before (j + 1) delivered later, decoded, List.filterMap_cons,
        read, Except.toOption, List.length_cons, Nat.add_assoc, Nat.add_comm 1]
    | ok batch =>
      have sent := accepted 0 (by simp) batch read
      rw [List.cons_append, replayFiles, read]
      simp only [Nat.add_zero] at sent
      simp only [sent, replayFiles_accepted env rest before (j + 1) _ later, decoded, List.filterMap_cons, read,
        Except.toOption, List.length_cons, Nat.add_assoc, Nat.add_comm 1, List.append_assoc, List.singleton_append]

/-- A drain stops at the first refused batch: every decoded batch before it reaches the server,
none after it is sent, and every buffered file stays, the refused one included, so the next
drain reads them all again. -/
theorem drain_stops_at_refused {p : Pipeline} {env : FlushEnv} {before after : List Bytes} {data : Bytes}
    {batch : TelemetryBatch} (listed : p.buffer.readAll env.readFaults = .ok (before ++ data :: after))
    (accepted : ∀ i (lt : i < before.length) batch, TelemetryBatch.unmarshal (before.get ⟨i, lt⟩) = .ok batch →
      sendBatch batch (env.replay i) = .ok ())
    (read : TelemetryBatch.unmarshal data = .ok batch) (refused : sendBatch batch (env.replay before.length) ≠ .ok ()) :
    p.flushBuffer env = { p with delivered := p.delivered ++ decoded before } := by
  have stops : replayFiles env before.length (data :: after) (p.delivered ++ decoded before) =
      (false, p.delivered ++ decoded before) := by
    cases sent : sendBatch batch (env.replay before.length) with
    | ok u => exact absurd sent refused
    | error err => simp [replayFiles, read, sent]
  have replayed := replayFiles_accepted env (data :: after) before 0 p.delivered
    (fun i lt batch read => by rw [Nat.zero_add]; exact accepted i lt batch read)
  rw [Nat.zero_add, stops] at replayed
  obtain ⟨first, rest, nonempty⟩ := List.exists_cons_of_ne_nil (List.append_ne_nil_of_right_ne_nil before
    (List.cons_ne_nil data after))
  rw [nonempty] at listed replayed
  simp only [flushBuffer, listed, replayed]

/-- Two buffered files, `{}` and `{"agent_id":"a"}`. -/
def poisonedBuffer : Buffer :=
  ⟨1048576, 18, ⟨[("batch_1.json", .file (asciiBytes "\x7b\x7d") 0),
    ("batch_2.json", .file (asciiBytes "\x7b\"agent_id\":\"a\"\x7d") 0)], by decide⟩⟩

/-- A drain whose first replayed POST is answered 400 and every later one 200. -/
def poisonedDrain : FlushEnv :=
  { unavailable with replay := fun j => if j = 0 then .answered 400 "bad batch" else .answered 200 "" }

private theorem poisonedBuffer_readAll :
    poisonedBuffer.readAll poisonedDrain.readFaults =
      .ok [asciiBytes "\x7b\x7d", asciiBytes "\x7b\"agent_id\":\"a\"\x7d"] := by
  have ordered : "batch_1.json" ≤ "batch_2.json" := String.le_iff_toList_le.mpr (by decide)
  have sorted : poisonedBuffer.disk.readDir = poisonedBuffer.disk.entries :=
    List.Sorted.insertionSort_eq (List.sorted_cons.mpr ⟨by simpa [poisonedBuffer] using ordered,
      List.sorted_singleton _⟩)
  simp only [Buffer.readAll, sorted]
  rfl

/-- A drain whose first replayed POST is answered 200 and every later one 400. -/
def refusedSecond : FlushEnv :=
  { unavailable with replay := fun j => if j = 0 then .answered 200 "" else .answered 400 "bad batch" }

theorem drain_stops_at_refused_second :
    poisonedBuffer.readAll refusedSecond.readFaults =
        .ok ([asciiBytes "\x7b\x7d"] ++ asciiBytes "\x7b\"agent_id\":\"a\"\x7d" :: []) ∧
      (∀ i (lt : i < [asciiBytes "\x7b\x7d"].length) batch,
        TelemetryBatch.unmarshal ([asciiBytes "\x7b\x7d"].get ⟨i, lt⟩) = .ok batch →
          sendBatch batch (refusedSecond.replay i) = .ok ()) ∧
      TelemetryBatch.unmarshal (asciiBytes "\x7b\"agent_id\":\"a\"\x7d") =
        .ok { TelemetryBatch.zero with agentID := asciiBytes "a" } ∧
      sendBatch { TelemetryBatch.zero with agentID := asciiBytes "a" } (refusedSecond.replay 1) ≠ .ok () ∧
      (⟨1, [], poisonedBuffer, []⟩ : Pipeline).flushBuffer refusedSecond =
        ⟨1, [], poisonedBuffer, [] ++ decoded [asciiBytes "\x7b\x7d"]⟩ :=
  have accepted : ∀ i (lt : i < [asciiBytes "\x7b\x7d"].length) batch,
      TelemetryBatch.unmarshal ([asciiBytes "\x7b\x7d"].get ⟨i, lt⟩) = .ok batch →
        sendBatch batch (refusedSecond.replay i) = .ok () := by
    intro i lt batch read
    obtain rfl : i = 0 := by simpa using lt
    cases read
    rfl
  have read : TelemetryBatch.unmarshal (asciiBytes "\x7b\"agent_id\":\"a\"\x7d") =
      .ok { TelemetryBatch.zero with agentID := asciiBytes "a" } := rfl
  have refused : sendBatch { TelemetryBatch.zero with agentID := asciiBytes "a" } (refusedSecond.replay 1) ≠ .ok () :=
    fun sent => absurd (congrArg Except.toBool sent) (by decide)
  ⟨poisonedBuffer_readAll, accepted, read, refused,
    drain_stops_at_refused poisonedBuffer_readAll accepted read refused⟩

/-- The server refuses the first buffered batch and would accept the second, yet the drain
sends nothing after the first and leaves the pipeline as it was: every later drain against the
same server does the same, and the second batch is never delivered. -/
theorem refused_batch_blocks_drain :
    TelemetryBatch.unmarshal (asciiBytes "\x7b\"agent_id\":\"a\"\x7d") =
        .ok { TelemetryBatch.zero with agentID := asciiBytes "a" } ∧
      sendBatch { TelemetryBatch.zero with agentID := asciiBytes "a" } (poisonedDrain.replay 1) = .ok () ∧
      (⟨1, [], poisonedBuffer, []⟩ : Pipeline).flushBuffer poisonedDrain = ⟨1, [], poisonedBuffer, []⟩ := by
  refine ⟨rfl, rfl, ?_⟩
  unfold flushBuffer
  rw [poisonedBuffer_readAll]
  rfl

/-! ## What a replay posts -/

/-- `float64(2 ^ 53)`, the float nearest to `2 ^ 53 + 1`. -/
def twoPow53 : Float64 := ⟨false, 1076, 0, by decide, by decide⟩

/-- A batch whose one record holds the integer `2 ^ 53 + 1`. -/
def largeCounterBatch : TelemetryBatch :=
  ⟨asciiBytes "agent-1", Time.zero, some [some [(asciiBytes "bytes", .int 9007199254740993)]]⟩

/-- A drain that finds only the file of `largeCounterBatch`, against a server that accepts
every POST, delivers a different batch: the buffered text decodes the integer into the
nearest `float64`, and the replayed POST body, the encoding of that batch, has other digits
than the live body, which is the file's content. -/
theorem replay_rounds_large_integer :
    largeCounterBatch.marshal = .ok (asciiBytes
        "\x7b\"agent_id\":\"agent-1\",\"timestamp\":\"0001-01-01T00:00:00Z\",\"data\":[\x7b\"bytes\":9007199254740993\x7d]\x7d") ∧
      replayFiles { unavailable with replay := fun _ => .answered 200 "" } 0 [asciiBytes
          "\x7b\"agent_id\":\"agent-1\",\"timestamp\":\"0001-01-01T00:00:00Z\",\"data\":[\x7b\"bytes\":9007199254740993\x7d]\x7d"]
          [] =
        (true, [⟨asciiBytes "agent-1", Time.zero, some [some [(asciiBytes "bytes", .float twoPow53)]]⟩]) ∧
      (⟨asciiBytes "agent-1", Time.zero, some [some [(asciiBytes "bytes", .float twoPow53)]]⟩ : TelemetryBatch).marshal =
        .ok (asciiBytes
          "\x7b\"agent_id\":\"agent-1\",\"timestamp\":\"0001-01-01T00:00:00Z\",\"data\":[\x7b\"bytes\":9007199254740992\x7d]\x7d") :=
  ⟨rfl, rfl, rfl⟩

end Pipeline

end EndpointAgent
