import EndpointAgent.Audit.Framing
import EndpointAgent.Sender.Replay

/-!
# Reading an audit line back

A reader of the audit file decodes each whole line with `json.Unmarshal` into an
`interface{}`. For an event whose strings are valid UTF-8 and whose details hold strings under
distinct keys, as a Go map's are, the line parses as one object, and it decodes to the members
`json.Marshal` wrote, in order: the timestamp as its RFC 3339 text, each string as itself, and
the details as a map, which `json.Marshal` wrote in key order.

The members are read back one by one against a relation between what is written and what is
decoded (`ReadsBack`), once for the event and once for its details.
-/

set_option autoImplicit false

namespace EndpointAgent

open Json

namespace AuditEvent

/-- A string member tagged `omitempty` as a reader decodes it: none for the empty string. -/
def optionalValue (key : String) (value : Bytes) : List (Bytes × Value) :=
  if value = [] then [] else [(Utf8.encode key.data, .string value)]

/-- The `details` member as a reader decodes it: a map, which `json.Marshal` wrote in key
order. -/
def detailsValue : Record → List (Bytes × Value)
  | none | some [] => []
  | some (field :: fields) => [(Utf8.encode "details".data, .object ((field :: fields).insertionSort keyOrder))]

/-- An event as `json.Unmarshal` of its line into an `interface{}` gives it back: the members
`json.Marshal` wrote, in order, with the timestamp as its RFC 3339 text and each string as
itself. -/
def decoded (e : AuditEvent) : List (Bytes × Value) :=
  [(Utf8.encode "timestamp".data, .string (Utf8.encode (Time.formatRFC3339 e.timestamp))),
      (Utf8.encode "event_type".data, .string e.eventType), (Utf8.encode "severity".data, .string e.severity)] ++
    optionalValue "agent_id" e.agentID ++ optionalValue "user_id" e.userID ++
    [(Utf8.encode "action".data, .string e.action)] ++ optionalValue "resource" e.resource ++
    [(Utf8.encode "result".data, .string e.result)] ++ detailsValue e.details ++
    optionalValue "source_ip" e.sourceIP ++ optionalValue "error_msg" e.errorMsg

end AuditEvent

namespace Json

/-- A member `json.Marshal` writes, and the entry `json.Unmarshal` decodes from it: the key in
UTF-8, and a value whose text reads, with `n` levels of nesting, as a value that decodes to the
entry's. -/
def ReadsBack (n : Nat) (member : List Char × Except GoError Bytes) (entry : Bytes × Value) : Prop :=
  Utf8.encode member.1 = entry.1 ∧ ∀ text, member.2 = .ok text → ∃ read, ReadsAt n text read ∧ toValue read = .ok entry.2

/-- Written members that read back one by one are read as members that decode to the entries. -/
private theorem reads_members {n : Nat} {members : List (List Char × Except GoError Bytes)} {entries : List (Bytes × Value)}
    (each : List.Forall₂ (ReadsBack n) members entries) {parts : List Bytes}
    (collected : collect (members.map fun member => member.2.map fun value => memberText (member.1, value)) = .ok parts) :
    ∃ texts parsed, parts = texts.map memberText ∧
      List.Forall₂ (fun text parsed => text.1 = parsed.1 ∧ ReadsAt n text.2 parsed.2) texts parsed ∧
      collect (toEntries parsed) = .ok entries := by
  rw [collect_eq_ok, List.forall₂_map_left_iff] at collected
  induction each generalizing parts with
  | nil =>
    cases collected
    exact ⟨[], [], rfl, .nil, rfl⟩
  | cons first _ ih =>
    cases collected with
    | cons written rest =>
      obtain ⟨text, encoded, rfl⟩ := (except_map_eq_ok _ _ _).mp written
      obtain ⟨read, reads, decodedValue⟩ := first.2 text encoded
      obtain ⟨texts, parsed, rfl, readsRest, decodedRest⟩ := ih rest
      refine ⟨(_, text) :: texts, (_, read) :: parsed, rfl, .cons ⟨rfl, reads⟩ readsRest, ?_⟩
      simp [toEntries, collect, decodedValue, decodedRest, first.1, Except.map]

/-- An object of members that read back, under distinct keys, reads as an object that decodes
to the map of the entries, in order. -/
private theorem reads_object {n : Nat} {members : List (List Char × Except GoError Bytes)} {entries : List (Bytes × Value)}
    (each : List.Forall₂ (ReadsBack n) members entries) (distinct : (entries.map Prod.fst).Nodup) {parts : List Bytes}
    (collected : collect (members.map fun member => member.2.map fun value => memberText (member.1, value)) = .ok parts) :
    ∃ read, ReadsAt (n + 1) (enclose '{' '}' parts) read ∧ toValue read = .ok (.object entries) := by
  obtain ⟨texts, parsed, rfl, reads, decodedEntries⟩ := reads_members each collected
  refine ⟨_, reads_encloseObject reads, ?_⟩
  rw [toValue, decodedEntries]
  simp [Except.map, buildMap_of_nodup distinct]

private theorem readsBack_string {n : Nat} (key : List Char) {s : Bytes} (valid : Utf8.Valid s) :
    ReadsBack n (key, .ok (quote s)) (Utf8.encode key, .string s) := by
  have same : Utf8.encode (Utf8.decode s) = s := valid
  refine ⟨rfl, fun text written => ?_⟩
  cases written
  have reads := reads_string (Utf8.decode s)
  rw [same] at reads
  exact ⟨_, reads.le (Nat.zero_le _), by rw [toValue, same]⟩

private theorem readsBack_timestamp {n : Nat} (t : Time) :
    ReadsBack n ("timestamp".data, t.marshalJSON) (Utf8.encode "timestamp".data, .string (Utf8.encode (Time.formatRFC3339 t))) :=
  ⟨rfl, fun _ marshalled => ⟨_, (TelemetryBatch.reads_timestamp marshalled).2.le (Nat.zero_le _), rfl⟩⟩

/-- A map of valid UTF-8 strings under distinct keys reads back as the map in key order. -/
private theorem readsBack_details {fields : List (Bytes × Value)}
    (strings : ∀ field ∈ fields, Utf8.Valid field.1 ∧ ∃ s, field.2 = .string s ∧ Utf8.Valid s)
    (distinct : (fields.map Prod.fst).Nodup) :
    ReadsBack 1 ("details".data, encode (.object fields)) (Utf8.encode "details".data, .object (fields.insertionSort keyOrder)) := by
  refine ⟨rfl, fun text encoded => ?_⟩
  have perm := List.perm_insertionSort keyOrder fields
  have validKey : ∀ field ∈ fields.insertionSort keyOrder, Utf8.encode (Utf8.decode field.1) = field.1 :=
    fun field mem => (strings field (perm.subset mem)).1
  have each : List.Forall₂ (ReadsBack 0) ((fields.insertionSort keyOrder).map fun field => (Utf8.decode field.1, encode field.2))
      (fields.insertionSort keyOrder) := by
    rw [List.forall₂_map_left_iff, List.forall₂_same]
    rintro ⟨key, value⟩ mem
    obtain ⟨_, s, rfl, validValue⟩ := strings _ (perm.subset mem)
    have reads := readsBack_string (n := 0) (Utf8.decode key) validValue
    rwa [validKey _ mem] at reads
  obtain ⟨parts, body, rfl⟩ := (except_map_eq_ok _ _ _).mp encoded
  rw [objectBody_encodeFields] at body
  refine reads_object each ((perm.map Prod.fst).nodup_iff.mpr distinct) ?_
  rw [← body, List.map_map]
  refine congrArg collect (List.map_congr_left fun field mem => ?_)
  simp [memberText, validKey field mem]

end Json

namespace AuditEvent

private theorem readsBack_optional (key : String) {s : Bytes} (valid : Utf8.Valid s) :
    List.Forall₂ (ReadsBack 1) (optionalMember key s) (optionalValue key s) := by
  unfold optionalMember optionalValue
  split
  · exact .nil
  · exact .cons (readsBack_string _ valid) .nil

private theorem readsBack_detailsMember {details : Record}
    (strings : ∀ fields, details = some fields → ∀ field ∈ fields, Utf8.Valid field.1 ∧ ∃ s, field.2 = .string s ∧ Utf8.Valid s)
    (distinct : ∀ fields, details = some fields → (fields.map Prod.fst).Nodup) :
    List.Forall₂ (ReadsBack 1) (detailsMember details) (detailsValue details) := by
  rcases details with _ | _ | ⟨field, fields⟩
  · exact .nil
  · exact .nil
  · exact .cons (readsBack_details (strings _ rfl) (distinct _ rfl)) .nil

/-- Each member an event with valid UTF-8 strings writes reads back as the entry it decodes to. -/
private theorem members_readBack {e : AuditEvent} (textual : e.Textual)
    (distinct : ∀ fields, e.details = some fields → (fields.map Prod.fst).Nodup) :
    List.Forall₂ (ReadsBack 1) e.members e.decoded := by
  obtain ⟨strings, details⟩ := textual
  simp only [List.forall_mem_cons, List.not_mem_nil, false_imp_iff, implies_true, and_true] at strings
  obtain ⟨eventType, severity, agentID, userID, action, resource, result, sourceIP, errorMsg⟩ := strings
  unfold members decoded
  refine List.rel_append (List.rel_append (List.rel_append (List.rel_append (List.rel_append (List.rel_append
    (List.rel_append (List.rel_append ?_ (readsBack_optional _ agentID)) (readsBack_optional _ userID)) ?_)
    (readsBack_optional _ resource)) ?_) (readsBack_detailsMember details distinct)) (readsBack_optional _ sourceIP))
    (readsBack_optional _ errorMsg)
  · exact .cons (readsBack_timestamp _) (.cons (readsBack_string _ eventType) (.cons (readsBack_string _ severity) .nil))
  · exact .cons (readsBack_string _ action) .nil
  · exact .cons (readsBack_string _ result) .nil

private theorem optionalValue_keys (key : String) (s : Bytes) :
    List.Sublist ((optionalValue key s).map Prod.fst) [Utf8.encode key.data] := by
  unfold optionalValue
  split <;> simp

private theorem detailsValue_keys (details : Record) :
    List.Sublist ((detailsValue details).map Prod.fst) [Utf8.encode "details".data] := by
  rcases details with _ | _ | ⟨field, fields⟩ <;> simp [detailsValue]

/-- The keys a reader decodes are the tags of the fields `json.Marshal` wrote, each once. -/
private theorem decoded_nodup (e : AuditEvent) : (e.decoded.map Prod.fst).Nodup := by
  have keys : List.Sublist (e.decoded.map Prod.fst)
      ([Utf8.encode "timestamp".data, Utf8.encode "event_type".data, Utf8.encode "severity".data] ++
        [Utf8.encode "agent_id".data] ++ [Utf8.encode "user_id".data] ++ [Utf8.encode "action".data] ++
        [Utf8.encode "resource".data] ++ [Utf8.encode "result".data] ++ [Utf8.encode "details".data] ++
        [Utf8.encode "source_ip".data] ++ [Utf8.encode "error_msg".data]) := by
    simp only [decoded, List.map_append]
    exact (((((((((List.Sublist.refl _).append (optionalValue_keys _ _)).append (optionalValue_keys _ _)).append
      (List.Sublist.refl _)).append (optionalValue_keys _ _)).append (List.Sublist.refl _)).append
      (detailsValue_keys _)).append (optionalValue_keys _ _)).append (optionalValue_keys _ _))
  exact keys.nodup (by decide)

/-- A line `LogEvent` writes for an event with valid UTF-8 strings reads back whole: it parses
as one JSON object, and `json.Unmarshal` of it into an `interface{}` gives every member the
event wrote, in order, with its value. -/
theorem marshal_decodes {e : AuditEvent} (textual : e.Textual)
    (distinct : ∀ fields, e.details = some fields → (fields.map Prod.fst).Nodup) {data : Bytes}
    (marshalled : e.marshal = .ok data) :
    ∃ read, parse data = .ok read ∧ toValue read = .ok (.object e.decoded) := by
  obtain ⟨parts, collected, rfl⟩ := (except_map_eq_ok _ _ _).mp marshalled
  obtain ⟨read, reads, decodedValue⟩ := reads_object (members_readBack textual distinct) e.decoded_nodup collected
  exact ⟨read, parse_of_reads (by decide) reads, decodedValue⟩

end AuditEvent

namespace AuditLogger

/-- The line `LogEvent` writes for a policy change from `1.0.0` to `1.1.0` by `sampleAudit` at the
zero time. -/
def policyChangeLine : Bytes :=
  asciiBytes ("\x7b\"timestamp\":\"0001-01-01T00:00:00Z\",\"event_type\":\"policy_change\",\"severity\":\"INFO\"," ++
    "\"agent_id\":\"agent-1\",\"action\":\"policy_update\",\"result\":\"success\"," ++
    "\"details\":\x7b\"new_version\":\"1.1.0\",\"old_version\":\"1.0.0\"\x7d\x7d")

/-- The line of a policy change from `1.0.0` to `1.1.0`, stamped by `sampleAudit`, decodes to its
members in order, with the agent ID the logger stamped and the details map in key order. -/
theorem marshal_decodes_policyChange :
    (sampleAudit.stamp Time.zero (policyChangeEvent (asciiBytes "1.0.0") (asciiBytes "1.1.0"))).marshal =
        .ok policyChangeLine ∧
      ∃ read, parse policyChangeLine = .ok read ∧
        toValue read = .ok (.object [(asciiBytes "timestamp", .string (asciiBytes "0001-01-01T00:00:00Z")),
          (asciiBytes "event_type", .string (asciiBytes "policy_change")), (asciiBytes "severity", .string (asciiBytes "INFO")),
          (asciiBytes "agent_id", .string (asciiBytes "agent-1")), (asciiBytes "action", .string (asciiBytes "policy_update")),
          (asciiBytes "result", .string (asciiBytes "success")),
          (asciiBytes "details", .object [(asciiBytes "new_version", .string (asciiBytes "1.1.0")),
            (asciiBytes "old_version", .string (asciiBytes "1.0.0"))])]) := by
  have textual : (policyChangeEvent (asciiBytes "1.0.0") (asciiBytes "1.1.0")).Textual := by
    refine ⟨by decide, fun fields same field mem => ?_⟩
    cases same
    rcases List.mem_cons.mp mem with rfl | later
    · exact ⟨by decide, _, rfl, by decide⟩
    · rw [List.mem_singleton.mp later]
      exact ⟨by decide, _, rfl, by decide⟩
  have marshalled : (sampleAudit.stamp Time.zero (policyChangeEvent (asciiBytes "1.0.0") (asciiBytes "1.1.0"))).marshal =
      .ok policyChangeLine := rfl
  obtain ⟨read, parsed, decodedValue⟩ := AuditEvent.marshal_decodes (stamp_textual (by decide) Time.zero textual)
    (fun fields same => by cases same; decide) marshalled
  exact ⟨marshalled, read, parsed, decodedValue.trans rfl⟩

end AuditLogger

end EndpointAgent
