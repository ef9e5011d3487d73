import EndpointAgent.Json.Compact
import EndpointAgent.Json.Time.ReadBack
import EndpointAgent.Sender.Spill

/-!
# Replays that keep their bytes

`flushBuffer` decodes each buffered file into a `TelemetryBatch` and posts what `json.Marshal`
writes of that batch. The file was itself written by `json.Marshal` of a batch, and the second
encoding is the first whenever that batch has

* an agent identifier of valid UTF-8: a byte that is not is read back as U+FFFD and written
  as its three bytes;
* an offset of zero or of at least a minute: the zone is written in whole minutes, so a
  smaller offset is written `+00:00`, read back as zero and written `Z`;
* `Replayable` records: integers below `2^53`, which come back as `float64`s written with
  the same digits, valid UTF-8 strings and keys, and no key twice in one map;
* room for its nesting: the batch object and its `data` array are two levels above the
  records, and the decoder refuses a text nested past `maxNestingDepth`.

Each condition excludes a batch whose replay is written differently, or not at all.
-/

set_option autoImplicit false

namespace EndpointAgent

namespace Json

/-- A text that reads as a value, with room for its nesting, parses as that value. -/
theorem parse_of_reads {n : Nat} {text : Bytes} {value : Syntax} (room : n < maxNestingDepth)
    (reads : ReadsAt n text value) : parse text = .ok value := by
  have whole := reads text.length 0 [] le_rfl (by omega) (fun b mem => by cases mem)
  rw [List.append_nil] at whole
  rw [parse, whole]
  rfl

end Json

namespace TelemetryBatch

open Json

/-! ## The timestamp -/

private theorem quoteChar_timeChars : ∀ c ∈ Time.timeChars, quoteChar c = [ascii c] := by decide

private theorem flatMap_ascii {l : List Char} {f : Char → Bytes} (single : ∀ c ∈ l, f c = [ascii c]) :
    l.flatMap f = l.map ascii := by
  induction l with
  | nil => rfl
  | cons c rest ih =>
    rw [List.flatMap_cons, single c (List.mem_cons_self _ _),
      ih fun d mem => single d (List.mem_cons_of_mem _ mem)]
    rfl

/-- A written timestamp is the quoted RFC 3339 text, one byte a character, and reads back as
that string. -/
theorem reads_timestamp {t : Time} {text : Bytes} (marshalled : t.marshalJSON = .ok text) :
    text = ascii '"' :: (Time.formatRFC3339 t).map ascii ++ [ascii '"'] ∧
      ReadsAt 0 text (.string ((Time.formatRFC3339 t).map ascii) (Time.formatRFC3339 t)) := by
  obtain ⟨yearRange, hour, rfl⟩ := Time.marshalJSON_eq_ok.mp marshalled
  have plain : quoteChars (Time.formatRFC3339 t) = (Time.formatRFC3339 t).map ascii :=
    flatMap_ascii fun c mem => quoteChar_timeChars c (Time.formatRFC3339_timeChars yearRange hour c mem)
  have reads := reads_string (Time.formatRFC3339 t)
  rw [quote_encode, plain] at reads
  have written : ('"' :: Time.formatRFC3339 t ++ ['"']).map ascii =
      ascii '"' :: (Time.formatRFC3339 t).map ascii ++ [ascii '"'] := by
    simp
  rw [written]
  exact ⟨rfl, reads⟩

/-! ## The records -/

/-- A record reads back as one that is written the same. -/
private theorem record_replays {n : Nat} {record : Record} {part : Bytes}
    (replayable : ∀ fields, record = some fields → Replayable n (.object fields))
    (encoded : encodeRecord record = .ok part) :
    StartsValue part ∧ ∃ read decoded, ReadsAt n part read ∧ decodeRecord read = .ok decoded ∧
      encodeRecord decoded = .ok part := by
  cases record with
  | none =>
    cases encoded
    exact ⟨⟨_, _, rfl, rfl, by decide⟩, .null, none, reads_null.le (Nat.zero_le _), rfl, rfl⟩
  | some fields =>
    cases replayable fields rfl with
    | object distinct keys each =>
      obtain ⟨parsed, decoded, starts, reads, collected, distinct', reencoded⟩ :=
        replays_object distinct keys (fun f mem _ encodedField => (each f mem).replays encodedField) encoded
      refine ⟨starts, .object parsed, some decoded, reads, ?_, reencoded⟩
      rw [decodeRecord, collected]
      simp [Except.map, buildMap_of_nodup distinct']

/-- The `data` member reads back as records that are written the same, one level deeper. -/
private theorem data_replays {n : Nat} {data : Option (List Record)} {text : Bytes}
    (replayable : ∀ records ∈ data, ∀ fields, some fields ∈ records → Replayable n (.object fields))
    (encoded : encodeData data = .ok text) :
    ∃ read decoded, ReadsAt (n + 1) text read ∧ decodeData read = .ok decoded ∧
      encodeData decoded = .ok text := by
  cases data with
  | none =>
    cases encoded
    exact ⟨.null, none, reads_null.le (Nat.zero_le _), rfl, rfl⟩
  | some records =>
    obtain ⟨parts, collected, rfl⟩ := (except_map_eq_ok _ _ _).mp encoded
    rw [collect_eq_ok, List.forall₂_map_left_iff] at collected
    obtain ⟨reads, decoded, readParts, decodedRecords, reencoded⟩ :=
      readBack_parts collected fun record mem _ encodedRecord =>
        record_replays (fun fields same => replayable records rfl fields (same ▸ mem)) encodedRecord
    refine ⟨.array reads, some decoded, reads_encloseArray readParts, ?_, ?_⟩
    · rw [decodeData, decodedRecords]
      rfl
    · rw [encodeData, reencoded]
      rfl

/-! ## The batch -/

/-- `json.Marshal` of a batch writes an object of its three members, in declaration order. -/
private theorem marshal_eq_enclose {batch : TelemetryBatch} {body : Bytes} (marshalled : batch.marshal = .ok body) :
    ∃ timestamp data, batch.timestamp.marshalJSON = .ok timestamp ∧ encodeData batch.data = .ok data ∧
      body = enclose '\x7b' '\x7d' ([("agent_id".data, quote batch.agentID), ("timestamp".data, timestamp),
        ("data".data, data)].map memberText) := by
  have agentKey : asciiBytes "\x7b\"agent_id\":" =
      ascii '\x7b' :: quote (Utf8.encode "agent_id".data) ++ [ascii ':'] := by decide
  have timestampKey : asciiBytes ",\"timestamp\":" =
      ascii ',' :: quote (Utf8.encode "timestamp".data) ++ [ascii ':'] := by decide
  have dataKey : asciiBytes ",\"data\":" = ascii ',' :: quote (Utf8.encode "data".data) ++ [ascii ':'] := by
    decide
  cases stamped : batch.timestamp.marshalJSON with
  | error err => simp [marshal, stamped, bind, Except.bind] at marshalled
  | ok timestamp =>
    cases written : encodeData batch.data with
    | error err => simp [marshal, stamped, written, bind, Except.bind] at marshalled
    | ok data =>
      simp only [marshal, stamped, written, bind, Except.bind, pure, Except.pure, Except.ok.injEq] at marshalled
      refine ⟨timestamp, data, rfl, rfl, ?_⟩
      rw [← marshalled, agentKey, timestampKey, dataKey]
      simp only [List.map_cons, List.map_nil, enclose_cons, partsAfter, memberText, List.append_assoc,
        List.cons_append, List.singleton_append, List.nil_append, List.append_nil]

/-- The members of a batch, stored one after another into the zero batch. -/
private theorem foldlM_decodeMember (agentRaw : Bytes) (agent : List Char) (timestampRaw : Bytes) (timestamp : List Char)
    (data : Syntax) :
    [("agent_id".data, Syntax.string agentRaw agent), ("timestamp".data, .string timestampRaw timestamp),
        ("data".data, data)].foldlM decodeMember zero =
      (Time.zero.unmarshalJSON (ascii '"' :: timestampRaw ++ [ascii '"'])).bind fun stamp =>
        (decodeData data).map fun records => ⟨Utf8.encode agent, stamp, records⟩ := by
  simp only [List.foldlM_cons, List.foldlM_nil, decodeMember, decodeTimestamp, zero,
    (by decide : namesField "agent_id" "agent_id".data = true),
    (by decide : namesField "agent_id" "timestamp".data = false),
    (by decide : namesField "timestamp" "timestamp".data = true),
    (by decide : namesField "agent_id" "data".data = false),
    (by decide : namesField "timestamp" "data".data = false),
    (by decide : namesField "data" "data".data = true), if_true, Bool.false_eq_true, if_false, bind,
    Except.bind, pure, Except.pure]
  cases Time.zero.unmarshalJSON (ascii '"' :: timestampRaw ++ [ascii '"']) <;>
    cases decodeData data <;> rfl

/-- A batch that `flushBuffer` reads back from its buffered file is written as the same bytes
again: the replay posts exactly what was buffered. -/
theorem remarshal_identical {batch : TelemetryBatch} {body : Bytes} {n : Nat}
    (agent : Utf8.Valid batch.agentID)
    (zone : batch.timestamp.offset = 0 ∨ 60 ≤ batch.timestamp.offset.natAbs)
    (records : ∀ records ∈ batch.data, ∀ fields, some fields ∈ records → Replayable n (.object fields))
    (room : n + 2 < maxNestingDepth) (marshalled : batch.marshal = .ok body) :
    ∃ decoded, unmarshal body = .ok decoded ∧ decoded.marshal = .ok body := by
  obtain ⟨timestamp, data, stamped, written, shape⟩ := marshal_eq_enclose marshalled
  obtain ⟨quoted, readsStamp⟩ := reads_timestamp stamped
  obtain ⟨dataRead, decodedData, readsData, dataDecoded, dataReencoded⟩ := data_replays records written
  have readsAgent := reads_string (Utf8.decode batch.agentID)
  rw [show Utf8.encode (Utf8.decode batch.agentID) = batch.agentID from agent] at readsAgent
  have readsBody : ReadsAt (n + 2) body (.object
      [("agent_id".data, .string (quoteChars (Utf8.decode batch.agentID)) (Utf8.decode batch.agentID)),
        ("timestamp".data, .string ((Time.formatRFC3339 batch.timestamp).map ascii)
          (Time.formatRFC3339 batch.timestamp)), ("data".data, dataRead)]) := by
    rw [shape]
    exact reads_encloseObject (.cons ⟨rfl, readsAgent.le (Nat.zero_le _)⟩
      (.cons ⟨rfl, readsStamp.le (Nat.zero_le _)⟩ (.cons ⟨rfl, readsData⟩ .nil)))
  refine ⟨⟨batch.agentID, { batch.timestamp with offset := Time.minuteOffset batch.timestamp.offset },
    decodedData⟩, ?_, ?_⟩
  · rw [unmarshal, parse_of_reads room readsBody]
    show List.foldlM decodeMember zero _ = _
    rw [foldlM_decodeMember, ← quoted, Time.unmarshalJSON_marshalJSON stamped, dataDecoded,
      show Utf8.encode (Utf8.decode batch.agentID) = batch.agentID from agent]
    rfl
  · rw [← marshalled]
    simp only [marshal, Time.marshalJSON_minuteOffset _ zone, dataReencoded, written]

/-- The batch of `{"cpu": 42}` from agent `agent-1` at the zero time replays as its own bytes. -/
theorem cpu_batch_remarshals :
    ∃ decoded, unmarshal (asciiBytes
        "\x7b\"agent_id\":\"agent-1\",\"timestamp\":\"0001-01-01T00:00:00Z\",\"data\":[\x7b\"cpu\":42\x7d]\x7d") =
        .ok decoded ∧ decoded.marshal = .ok (asciiBytes
        "\x7b\"agent_id\":\"agent-1\",\"timestamp\":\"0001-01-01T00:00:00Z\",\"data\":[\x7b\"cpu\":42\x7d]\x7d") :=
  remarshal_identical (n := 1) (by exact rfl) (by exact .inl rfl)
    (by
      rintro records ⟨⟩ fields mem
      simp only [List.mem_singleton, Pipeline.cpuRecord, Option.some.injEq] at mem
      subst mem
      refine .object (by decide) (fun field mem => ?_) (fun field mem => ?_) <;>
        rw [List.mem_singleton] at mem <;> subst mem
      · rfl
      · exact .int (by decide))
    (by decide)
    (show (⟨asciiBytes "agent-1", Time.zero, some [Pipeline.cpuRecord]⟩ : TelemetryBatch).marshal = .ok _ from rfl)

end TelemetryBatch

end EndpointAgent
