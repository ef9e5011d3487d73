import EndpointAgent.Audit
import EndpointAgent.Json.Time.ReadBack

/-!
# How the audit file is framed

Each `LogEvent` call adds to the file what its `Write` wrote: the encoding and a newline when
the write completes, the first bytes of them when it fails, nothing when the event does not
encode. The encoding of an event whose strings are valid UTF-8 has no control byte in it, so a
complete write adds one whole line. A failed write leaves a fragment with no newline, and the
next event's line continues it: that line is neither event's encoding.
-/

set_option autoImplicit false

namespace EndpointAgent

open Json

/-! ## Encodings without control bytes -/

/-- Bytes with no control byte in them: each is at least a space. -/
def Printable (bytes : Bytes) : Prop := ∀ b ∈ bytes, 0x20 ≤ b.toNat

theorem Printable.append {xs ys : Bytes} (left : Printable xs) (right : Printable ys) : Printable (xs ++ ys) :=
  fun b mem => (List.mem_append.mp mem).elim (left b) (right b)

theorem Printable.cons {b : UInt8} {bytes : Bytes} (head : 0x20 ≤ b.toNat) (tail : Printable bytes) :
    Printable (b :: bytes) :=
  List.forall_mem_cons.mpr ⟨head, tail⟩

private theorem Printable.not_newline {bytes : Bytes} (printable : Printable bytes) : ascii '\n' ∉ bytes :=
  fun mem => absurd (printable _ mem) (by decide)

private theorem escapeASCII_printable : ∀ n < 128, Printable (escapeASCII (UInt8.ofNat n)) := by
  unfold Printable
  decide

private theorem quoteChar_printable (c : Char) : Printable (quoteChar c) := by
  unfold quoteChar
  split_ifs with narrow separator
  · exact escapeASCII_printable c.toNat narrow
  · rcases separator with rfl | rfl <;> (unfold Printable; decide)
  · obtain ⟨_, _, _, _, wide⟩ := Utf8.encodeChar_multi (c := c) (by omega)
    exact fun b mem => le_trans (by decide) (wide b mem)

/-- `appendString` writes a valid UTF-8 string with no control byte. -/
private theorem quote_printable {s : Bytes} (valid : Utf8.Valid s) : Printable (quote s) := by
  have written := quote_encode (Utf8.decode s)
  rw [valid] at written
  rw [written]
  refine Printable.cons (by decide) (Printable.append (fun b mem => ?_) (Printable.cons (by decide) nofun))
  obtain ⟨c, _, inChar⟩ := List.mem_flatMap.mp mem
  exact quoteChar_printable c b inChar

private theorem marshalJSON_printable {t : Time} {data : Bytes} (marshalled : t.marshalJSON = .ok data) :
    Printable data := by
  obtain ⟨yearRange, hour, rfl⟩ := Time.marshalJSON_eq_ok.mp marshalled
  have timeChars : ∀ c ∈ Time.timeChars, 0x20 ≤ (ascii c).toNat := by decide
  intro b mem
  obtain ⟨c, inText, rfl⟩ := List.mem_map.mp mem
  rcases List.mem_cons.mp inText with rfl | inRest
  · decide
  rcases List.mem_append.mp inRest with inFormat | closing
  · exact timeChars c (Time.formatRFC3339_timeChars yearRange hour c inFormat)
  · rw [List.mem_singleton.mp closing]
    decide

private theorem memberText_printable (key : List Char) {value : Bytes} (printable : Printable value) :
    Printable (memberText (key, value)) :=
  (quote_printable ((Utf8.valid_iff _).mpr ⟨key, rfl⟩)).append (Printable.cons (by decide) printable)

private theorem partsAfter_printable {parts : List Bytes} (each : ∀ part ∈ parts, Printable part) :
    Printable (partsAfter parts) := by
  induction parts with
  | nil => exact nofun
  | cons part rest ih =>
    exact Printable.cons (by decide) ((each part (List.mem_cons_self _ _)).append
      (ih fun p mem => each p (List.mem_cons_of_mem _ mem)))

/-- Brackets and commas around parts with no control byte add none. -/
private theorem enclose_printable {opening closing : Char} (open' : 0x20 ≤ (ascii opening).toNat)
    (close : 0x20 ≤ (ascii closing).toNat) {parts : List Bytes} (each : ∀ part ∈ parts, Printable part) :
    Printable (enclose opening closing parts) := by
  cases parts with
  | nil => exact Printable.cons open' (Printable.cons close nofun)
  | cons part rest =>
    rw [enclose_cons]
    exact Printable.cons open' (((each part (List.mem_cons_self _ _)).append
      (partsAfter_printable fun p mem => each p (List.mem_cons_of_mem _ mem))).append (Printable.cons close nofun))

private theorem collect_printable {xs : List (Except GoError Bytes)} {ys : List Bytes}
    (each : ∀ x ∈ xs, ∀ y, x = .ok y → Printable y) (collected : collect xs = .ok ys) : ∀ y ∈ ys, Printable y := by
  rw [collect_eq_ok] at collected
  induction collected with
  | nil => exact nofun
  | cons first _ ih =>
    intro y mem
    rcases List.mem_cons.mp mem with rfl | later
    · exact each _ (List.mem_cons_self _ _) _ first
    · exact ih (fun x mem => each x (List.mem_cons_of_mem _ mem)) y later

namespace AuditEvent

/-- An event whose strings are valid UTF-8 and whose `details` hold strings, as the
constructors make them from valid UTF-8 arguments. -/
def Textual (e : AuditEvent) : Prop :=
  (∀ s ∈ [e.eventType, e.severity, e.agentID, e.userID, e.action, e.resource, e.result, e.sourceIP,
      e.errorMsg], Utf8.Valid s) ∧
    ∀ fields, e.details = some fields → ∀ field ∈ fields, Utf8.Valid field.1 ∧ ∃ s, field.2 = .string s ∧ Utf8.Valid s

/-- A map of valid UTF-8 strings encodes with no control byte. -/
private theorem encode_details_printable {fields : List (Bytes × Value)}
    (strings : ∀ field ∈ fields, Utf8.Valid field.1 ∧ ∃ s, field.2 = .string s ∧ Utf8.Valid s) {data : Bytes}
    (encoded : encode (.object fields) = .ok data) : Printable data := by
  obtain ⟨parts, collected, rfl⟩ := (except_map_eq_ok _ _ _).mp encoded
  refine enclose_printable (by decide) (by decide) (collect_printable (fun x mem y ok => ?_) collected)
  obtain ⟨entry, sorted, rfl⟩ := List.mem_map.mp mem
  rw [encodeFields_eq_map] at sorted
  obtain ⟨field, inFields, rfl⟩ := List.mem_map.mp ((List.perm_insertionSort _ _).subset sorted)
  obtain ⟨validKey, s, isString, validValue⟩ := strings field inFields
  rw [isString] at ok
  cases ok
  exact (quote_printable validKey).append (Printable.cons (by decide) (quote_printable validValue))

private theorem mem_optionalMember {key : String} {s : Bytes} {member : List Char × Except GoError Bytes}
    (mem : member ∈ optionalMember key s) : member.2 = .ok (quote s) := by
  unfold optionalMember at mem
  split at mem
  · cases mem
  · rw [List.mem_singleton.mp mem]

private theorem mem_detailsMember {details : Record} {member : List Char × Except GoError Bytes}
    (mem : member ∈ detailsMember details) : ∃ fields, details = some fields ∧ member.2 = encode (.object fields) := by
  unfold detailsMember at mem
  split at mem
  · cases mem
  · cases mem
  · exact ⟨_, rfl, by rw [List.mem_singleton.mp mem]⟩

/-- Each member of an event's encoding is its timestamp, one of its strings, or its details. -/
private theorem mem_members {e : AuditEvent} {member : List Char × Except GoError Bytes} (mem : member ∈ e.members) :
    member.2 = e.timestamp.marshalJSON ∨
      (∃ s ∈ [e.eventType, e.severity, e.agentID, e.userID, e.action, e.resource, e.result, e.sourceIP,
        e.errorMsg], member.2 = .ok (quote s)) ∨
      ∃ fields, e.details = some fields ∧ member.2 = encode (.object fields) := by
  simp only [members, List.mem_append, List.mem_cons, List.mem_singleton, List.not_mem_nil, or_false] at mem
  rcases mem with ((((((((fixed | agent) | user) | action) | resource) | result) | details) | source) | error)
  · rcases fixed with rfl | rfl | rfl
    · exact .inl rfl
    · exact .inr (.inl ⟨_, by simp, rfl⟩)
    · exact .inr (.inl ⟨_, by simp, rfl⟩)
  · exact .inr (.inl ⟨_, by simp, mem_optionalMember agent⟩)
  · exact .inr (.inl ⟨_, by simp, mem_optionalMember user⟩)
  · exact .inr (.inl ⟨e.action, by simp, by rw [action]⟩)
  · exact .inr (.inl ⟨_, by simp, mem_optionalMember resource⟩)
  · exact .inr (.inl ⟨e.result, by simp, by rw [result]⟩)
  · exact .inr (.inr (mem_detailsMember details))
  · exact .inr (.inl ⟨_, by simp, mem_optionalMember source⟩)
  · exact .inr (.inl ⟨_, by simp, mem_optionalMember error⟩)

/-- The encoding of an event with valid UTF-8 strings has no control byte, so no newline. -/
private theorem marshal_printable {e : AuditEvent} (textual : e.Textual) {data : Bytes} (marshalled : e.marshal = .ok data) :
    Printable data := by
  obtain ⟨parts, collected, rfl⟩ := (except_map_eq_ok _ _ _).mp marshalled
  refine enclose_printable (by decide) (by decide) (collect_printable (fun x mem y ok => ?_) collected)
  obtain ⟨member, inMembers, rfl⟩ := List.mem_map.mp mem
  obtain ⟨value, encoded, rfl⟩ := (except_map_eq_ok _ _ _).mp ok
  refine memberText_printable _ ?_
  rcases mem_members inMembers with timestamp | ⟨s, string, quoted⟩ | ⟨fields, details, detailed⟩
  · exact marshalJSON_printable (timestamp ▸ encoded)
  · rw [quoted] at encoded
    cases encoded
    exact quote_printable (textual.1 s string)
  · exact encode_details_printable (textual.2 fields details) (detailed ▸ encoded)

end AuditEvent

namespace AuditLogger

theorem stamp_textual {a : AuditLogger} (agent : Utf8.Valid a.agentID) (now : Time) {e : AuditEvent}
    (textual : e.Textual) : (a.stamp now e).Textual := by
  obtain ⟨strings, details⟩ := textual
  simp only [List.forall_mem_cons, List.not_mem_nil, false_imp_iff, implies_true, and_true] at strings
  obtain ⟨eventType, severity, agentID, userID, action, resource, result, sourceIP, errorMsg⟩ := strings
  refine ⟨?_, details⟩
  simp only [stamp, List.forall_mem_cons, List.not_mem_nil, false_imp_iff, implies_true, and_true]
  exact ⟨eventType, severity, by split <;> assumption, userID, action, resource, result, sourceIP, errorMsg⟩

/-! ## Runs -/

/-- What one call adds to the file: nothing when the event does not encode, the encoding and
a newline when the write completes, and their first `written` bytes when it fails. -/
def appended (a : AuditLogger) (call : AuditCall) : Bytes :=
  match (a.stamp call.now call.event).marshal, call.outcome with
  | .error _, _ => []
  | .ok data, .complete _ => data ++ [ascii '\n']
  | .ok data, .failed written _ => (data ++ [ascii '\n']).take written

/-- A call only appends to the file. -/
private theorem logEvent_file (a : AuditLogger) (call : AuditCall) :
    (a.logEvent call.now call.event call.outcome).2 = { a with file := a.file ++ a.appended call } := by
  obtain ⟨now, event, outcome⟩ := call
  unfold logEvent appended
  cases (a.stamp now event).marshal <;> cases outcome <;> simp [List.append_assoc]

/-- After some calls the file holds what it held, then what each call appended, in order. -/
private theorem run_file (a : AuditLogger) (calls : List AuditCall) :
    (a.run calls).file = a.file ++ (calls.map a.appended).flatten := by
  induction calls generalizing a with
  | nil => simp
  | cons call calls ih =>
    rw [run_cons, logEvent_file, ih, List.map_cons, List.flatten_cons, List.append_assoc]
    rfl

/-- The audit file after some calls: what it held, then what each call appended, in order. A
call whose event has valid UTF-8 strings and encodes appends its encoding, which has no
newline, and a newline when its write completes, but only the first bytes of that when its
write fails. -/
theorem audit_file_lines (a : AuditLogger) (calls : List AuditCall) :
    (a.run calls).file = a.file ++ (calls.map a.appended).flatten ∧
      ∀ call ∈ calls, Utf8.Valid a.agentID → call.event.Textual →
        ∀ data, (a.stamp call.now call.event).marshal = .ok data →
          ascii '\n' ∉ data ∧ a.appended call = match call.outcome with
            | .complete _ => data ++ [ascii '\n']
            | .failed written _ => (data ++ [ascii '\n']).take written := by
  refine ⟨run_file a calls, fun call _ agent textual data marshalled => ⟨?_, ?_⟩⟩
  · exact (AuditEvent.marshal_printable (stamp_textual agent call.now textual) marshalled).not_newline
  · unfold appended
    rw [marshalled]
    cases call.outcome <;> rfl

/-- An audit logger for `agent-1` with an empty file. -/
def sampleAudit : AuditLogger := ⟨asciiBytes "agent-1", []⟩

/-- `LogServiceStop`'s event for a shutdown. -/
def shutdownEvent : AuditEvent := serviceStopEvent (asciiBytes "shutdown")

/-- `LogServiceStart` whose write fails after its first byte, then `LogServiceStop` whose write
and sync succeed. -/
def tornCalls : List AuditCall :=
  [⟨Time.zero, serviceStartEvent (asciiBytes "1.0"), .failed 1 (GoError.new "no space left on device")⟩,
    ⟨Time.zero, shutdownEvent, .complete none⟩]

set_option maxRecDepth 20000 in
/-- After `tornCalls` the file holds one line, for the write that succeeded, and that line is not
JSON: it is the first event's opening brace followed by the second event's encoding. -/
theorem audit_file_lines_torn :
    (sampleAudit.run tornCalls).file.count (ascii '\n') = 1 ∧
      (sampleAudit.run tornCalls).file.getLast? = some (ascii '\n') ∧
      (parse (sampleAudit.run tornCalls).file.dropLast).toBool = false ∧
      (sampleAudit.run tornCalls).file = sampleAudit.file ++ (tornCalls.map sampleAudit.appended).flatten ∧
      ∀ data, (sampleAudit.stamp Time.zero shutdownEvent).marshal = .ok data →
        ascii '\n' ∉ data ∧ sampleAudit.appended ⟨Time.zero, shutdownEvent, .complete none⟩ = data ++ [ascii '\n'] := by
  have textual : shutdownEvent.Textual := by
    refine ⟨by decide, fun fields same field mem => ?_⟩
    cases same
    rw [List.mem_singleton.mp mem]
    exact ⟨by decide, _, rfl, by decide⟩
  exact ⟨by decide, by decide, by decide, (audit_file_lines sampleAudit tornCalls).1,
    (audit_file_lines sampleAudit tornCalls).2 ⟨Time.zero, shutdownEvent, .complete none⟩ (by simp [tornCalls])
      (by decide) textual⟩

end AuditLogger

end EndpointAgent
