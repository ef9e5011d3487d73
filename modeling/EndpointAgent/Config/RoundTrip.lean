import EndpointAgent.Json.Reads
import EndpointAgent.Supervisor.Startup

/-!
# The configuration file read back

`Load` after `Save`. The parser takes the indented encoding of a configuration back member
by member, and `json.Unmarshal` stores each member in the field its key names. A field that
`omitempty` leaves out keeps the value of the zero configuration `Load` decodes into, which is
then its own value. So the configuration comes back whole, and only the environment overlay
at the end of `Load` changes it.
-/

set_option autoImplicit false

namespace EndpointAgent

namespace Config

open Json

/-! ## The indented layout -/

/-- A member on its line of `indentObject depth`. -/
def memberLine (depth : Nat) (member : String × Bytes) : Bytes :=
  ascii '\n' :: indentation (depth + 1) ++ quoteString member.1 ++ asciiBytes ": " ++ member.2

/-- The members after the first, each after its comma. -/
def linesAfter (depth : Nat) : List (String × Bytes) → Bytes
  | [] => []
  | member :: rest => ascii ',' :: memberLine depth member ++ linesAfter depth rest

private theorem indentObject_cons (depth : Nat) (member : String × Bytes) (rest : List (String × Bytes)) :
    indentObject depth (member :: rest) =
      ascii '{' :: memberLine depth member ++ linesAfter depth rest ++ ascii '\n' :: indentation depth ++
        [ascii '}'] := by
  suffices lines : ∀ member rest, (((member :: rest).map (memberLine depth)).intersperse [ascii ',']).flatten =
      memberLine depth member ++ linesAfter depth rest by
    exact congrArg (fun lines => ascii '{' :: lines ++ ascii '\n' :: indentation depth ++ [ascii '}'])
      (lines member rest)
  intro member rest
  induction rest generalizing member with
  | nil => simp [linesAfter]
  | cons next rest ih =>
    rw [List.map_cons, List.map_cons, List.intersperse_cons_cons, List.flatten_cons, List.flatten_cons,
      ← List.map_cons, ih]
    simp [linesAfter]

private theorem indentation_spaces (depth : Nat) : ∀ b ∈ indentation depth, isSpace b = true := by
  intro b mem
  rw [indentation, List.mem_replicate] at mem
  rw [mem.2]
  rfl

private theorem memberLine_append (d : Nat) (key : String) (value after : Bytes) :
    memberLine d (key, value) ++ after =
      ascii '\n' :: (indentation (d + 1) ++ (ascii '"' :: (quoteChars key.data ++ ascii '"' ::
        ascii ':' :: ascii ' ' :: (value ++ after)))) := by
  simp [memberLine, quoteString, quote_encode, asciiBytes]

private theorem memberLine_length (d : Nat) (member : String × Bytes) :
    member.2.length < (memberLine d member).length := by
  simp [memberLine]
  omega

/-! ## Reading an indented object -/

/-- A member's key, and its value read with `n` levels of nesting. -/
def MemberReads (n : Nat) (member : String × Bytes) (parsed : List Char × Syntax) : Prop :=
  parsed.1 = member.1.data ∧ ReadsAt n member.2 parsed.2

/-- One round of the member loop: the key, the colon and the value, up to what follows it. -/
private theorem parseMembers_member {n depth d fuel : Nat} {acc : List (List Char × Syntax)} {key : String}
    {value : Bytes} {parsed : Syntax} (reads : ReadsAt n value parsed) (deep : depth + n < maxNestingDepth)
    (enough : value.length < fuel) {after next : Bytes} {c : UInt8} (closes : Closes after)
    (spaced : skipSpace after = c :: next) :
    parseMembers (fuel + 1) depth acc (memberLine d (key, value) ++ after) =
      if c = ascii ',' then parseMembers fuel depth (acc ++ [(key.data, parsed)]) next
      else if c = ascii '}' then .ok (.object (acc ++ [(key.data, parsed)]), next)
      else .error (invalidCharacter "after object key:value pair") := by
  rw [memberLine_append]
  simp only [parseMembers, skipSpace_cons_space (by decide : isSpace (ascii '\n') = true),
    skipSpace_spaces (indentation_spaces _), skipSpace_of_head (by decide : isSpace (ascii '"') = false),
    ne_eq, not_true_eq_false, if_false]
  rw [scanString_quoteChars _ _ _ (by simp)]
  obtain ⟨fuel, rfl⟩ : ∃ f, fuel = f + 1 := ⟨fuel - 1, by omega⟩
  simp only [skipSpace_of_head (by decide : isSpace (ascii ':') = false), not_true_eq_false, if_false,
    parseValue_space (by decide : isSpace (ascii ' ') = true), reads fuel depth after (by omega) deep closes,
    unquote_quoteChars, spaced]

/-- The member loop reads the lines of an indented object up to its closing brace. -/
private theorem parseMembers_lines {n depth : Nat} (d : Nat) (deep : depth + n < maxNestingDepth) (rest : Bytes) :
    ∀ (members : List (String × Bytes)) (member : String × Bytes) (parsed : List (List Char × Syntax))
      (first : List Char × Syntax) (acc : List (List Char × Syntax)) (fuel : Nat),
      List.Forall₂ (MemberReads n) (member :: members) (first :: parsed) →
      (memberLine d member ++ linesAfter d members).length ≤ fuel →
      parseMembers (fuel + 1) depth acc
          (memberLine d member ++ linesAfter d members ++ ascii '\n' :: indentation d ++ ascii '}' :: rest) =
        .ok (.object (acc ++ first :: parsed), rest) := by
  intro members
  induction members with
  | nil =>
    rintro ⟨key, value⟩ parsed ⟨_, read⟩ acc fuel each enough
    obtain ⟨⟨rfl, reads⟩, last⟩ := List.forall₂_cons.mp each
    cases List.forall₂_nil_left_iff.mp last
    have closes : Closes (ascii '\n' :: (indentation d ++ ascii '}' :: rest)) :=
      fun b mem => by cases mem; exact .inr (.inr (.inr rfl))
    have long := memberLine_length d (key, value)
    simp only [linesAfter, List.append_nil, List.append_assoc, List.cons_append] at enough ⊢
    have spaced : skipSpace (ascii '\n' :: (indentation d ++ ascii '}' :: rest)) = ascii '}' :: rest := by
      rw [skipSpace_cons_space (by decide), skipSpace_spaces (indentation_spaces _), skipSpace_of_head (by decide)]
    rw [parseMembers_member reads deep (by omega) closes spaced, if_neg (by decide), if_pos rfl]
  | cons next members ih =>
    rintro ⟨key, value⟩ parsed ⟨_, read⟩ acc fuel each enough
    obtain ⟨⟨rfl, reads⟩, others⟩ := List.forall₂_cons.mp each
    obtain ⟨first, parsed, rfl⟩ : ∃ first parsed', parsed = first :: parsed' := by
      cases others with
      | cons _ _ => exact ⟨_, _, rfl⟩
    have long := memberLine_length d (key, value)
    have closes : Closes (ascii ',' :: (memberLine d next ++ linesAfter d members ++
        ascii '\n' :: indentation d ++ ascii '}' :: rest)) :=
      fun b mem => by cases mem; exact .inl rfl
    simp only [linesAfter, List.length_append, List.length_cons] at enough
    obtain ⟨fuel, rfl⟩ : ∃ f, fuel = f + 1 := ⟨fuel - 1, by omega⟩
    have continued := ih next parsed first (acc ++ [(key.data, read)]) fuel others (by simp; omega)
    simp only [linesAfter, List.cons_append, List.append_assoc] at continued ⊢
    rw [parseMembers_member reads deep (by omega) (by simpa only [List.append_assoc] using closes)
      (skipSpace_of_head (by decide) _), if_pos rfl, continued, List.nil_append]

/-- An indented object reads back as its members, with one level of nesting more than its
values. -/
private theorem reads_indentObject {n d : Nat} {members : List (String × Bytes)} {parsed : List (List Char × Syntax)}
    (each : List.Forall₂ (MemberReads n) members parsed) :
    ReadsAt (n + 1) (indentObject d members) (.object parsed) := by
  intro fuel depth rest enough deep closes
  have open' : ¬maxNestingDepth ≤ depth := by omega
  cases each with
  | nil =>
    simp only [indentObject, List.map_nil, List.intersperse_nil, List.flatten_nil, List.cons_append,
      List.nil_append, List.append_assoc, List.singleton_append]
    simp only [parseValue, skipSpace_of_head (by decide : isSpace (ascii '{') = false), if_pos (Or.inr rfl),
      if_neg open', skipSpace_cons_space (by decide : isSpace (ascii '\n') = true),
      skipSpace_spaces (indentation_spaces _), skipSpace_of_head (by decide : isSpace (ascii '}') = false),
      if_neg (by decide : ¬(ascii '{' = ascii '[' ∧ ascii '}' = ascii ']')), or_true, and_self, if_true]
  | @cons member first members parsed reads others =>
    obtain ⟨key, value⟩ := member
    have lines := @parseMembers_lines n (depth + 1) d (by omega) rest members (key, value) parsed first []
      (fuel - 1) (.cons reads others) (by rw [indentObject_cons] at enough; simp at enough ⊢; omega)
    obtain ⟨fuel, rfl⟩ : ∃ f, fuel = f + 1 :=
      ⟨fuel - 1, by rw [indentObject_cons] at enough; simp at enough; omega⟩
    rw [indentObject_cons]
    simp only [List.cons_append, List.append_assoc] at lines ⊢
    rw [memberLine_append] at lines ⊢
    simp only [parseValue, skipSpace_of_head (by decide : isSpace (ascii '{') = false), if_pos (Or.inr rfl),
      if_neg open', skipSpace_cons_space (by decide : isSpace (ascii '\n') = true),
      skipSpace_spaces (indentation_spaces _), skipSpace_of_head (by decide : isSpace (ascii '"') = false)]
    simpa using lines

/-! ## The members of a configuration -/

/-- What a string's quoted text reads as. -/
def stringSyntax (s : String) : Syntax := .string (quoteChars s.data) s.data

/-- What the parser reads from the file `Save` writes: the members `marshalIndent` writes, in
its order and with its omissions, each value as what its text reads as. -/
def parsedMembers (c : Config) : List (List Char × Syntax) :=
  [("bootstrapped".data, .bool c.bootstrapped)] ++
    (if c.orgID = "" then [] else [("org_id".data, stringSyntax c.orgID)]) ++
    (if c.agentID = "" then [] else [("agent_id".data, stringSyntax c.agentID)]) ++
    (if c.installToken = "" then [] else [("install_token".data, stringSyntax c.installToken)]) ++
    (if c.apiBaseURL = "" then [] else [("api_base_url".data, stringSyntax c.apiBaseURL)]) ++
    [("tls".data, .object [("cert_file".data, stringSyntax c.tlsConfig.certFile),
      ("key_file".data, stringSyntax c.tlsConfig.keyFile), ("ca_file".data, stringSyntax c.tlsConfig.caFile),
      ("insecure_skip_verify".data, .bool c.tlsConfig.insecureSkipVerify)])] ++
    (if c.collectionInterval = 0 then []
      else [("collection_interval".data, .number (numberBytes c.collectionInterval))]) ++
    (if c.batchSize = 0 then [] else [("batch_size".data, .number (numberBytes c.batchSize))]) ++
    (if c.maxBufferSize = 0 then [] else [("max_buffer_size".data, .number (numberBytes c.maxBufferSize))]) ++
    (if c.bufferDir = "" then [] else [("buffer_dir".data, stringSyntax c.bufferDir)]) ++
    (if c.heartbeatInterval = 0 then []
      else [("heartbeat_interval".data, .number (numberBytes c.heartbeatInterval))]) ++
    (if c.logLevel = "" then [] else [("log_level".data, stringSyntax c.logLevel)]) ++
    (if c.logFile = "" then [] else [("log_file".data, stringSyntax c.logFile)]) ++
    (if c.updateEnabled = false then [] else [("update_enabled".data, .bool c.updateEnabled)]) ++
    (if c.updateCheckInterval = 0 then []
      else [("update_check_interval".data, .number (numberBytes c.updateCheckInterval))])

private theorem reads_quoteString (s : String) : ReadsAt 0 (quoteString s) (stringSyntax s) := reads_string s.data

private theorem reads_numberBytes (n : Int) : ReadsAt 0 (numberBytes n) (.number (numberBytes n)) :=
  (numberText_toString n).reads

/-- A member `omitempty` may leave out reads as the same member, or is absent from both. -/
private theorem forall₂_omitEmpty {n : Nat} {key : String} {empty : Prop} [Decidable empty] {value : Bytes}
    {parsed : Syntax} (reads : ReadsAt n value parsed) :
    List.Forall₂ (MemberReads n) (omitEmpty key (decide empty) value) (if empty then [] else [(key.data, parsed)]) := by
  unfold omitEmpty
  by_cases blank : empty
  · simp [blank]
  · simpa [blank] using List.Forall₂.cons ⟨rfl, reads⟩ .nil

/-- `Save`'s file reads back as the members of the configuration. -/
private theorem marshalIndent_reads (c : Config) : ReadsAt 2 c.marshalIndent (.object c.parsedMembers) := by
  have tls : ReadsAt 1 (indentObject 1 [("cert_file", quoteString c.tlsConfig.certFile),
      ("key_file", quoteString c.tlsConfig.keyFile), ("ca_file", quoteString c.tlsConfig.caFile),
      ("insecure_skip_verify", boolBytes c.tlsConfig.insecureSkipVerify)])
      (.object [("cert_file".data, stringSyntax c.tlsConfig.certFile),
        ("key_file".data, stringSyntax c.tlsConfig.keyFile), ("ca_file".data, stringSyntax c.tlsConfig.caFile),
        ("insecure_skip_verify".data, .bool c.tlsConfig.insecureSkipVerify)]) :=
    reads_indentObject (.cons ⟨rfl, reads_quoteString _⟩ (.cons ⟨rfl, reads_quoteString _⟩
      (.cons ⟨rfl, reads_quoteString _⟩ (.cons ⟨rfl, reads_bool _⟩ .nil))))
  refine reads_indentObject ?_
  repeat' refine List.rel_append ?_ ?_
  all_goals first
    | exact forall₂_omitEmpty (reads_quoteString _).mono
    | exact forall₂_omitEmpty (reads_numberBytes _).mono
    | exact forall₂_omitEmpty (reads_bool _).mono
    | exact .cons ⟨rfl, (reads_bool _).mono⟩ .nil
    | exact .cons ⟨rfl, tls⟩ .nil

/-- The parser reads `Save`'s file as one object of the configuration's members. -/
private theorem parse_marshalIndent (c : Config) : parse c.marshalIndent = .ok (.object c.parsedMembers) := by
  have read := marshalIndent_reads c c.marshalIndent.length 0 [] le_rfl (by decide) (fun _ none => by cases none)
  rw [List.append_nil] at read
  simp [parse, read, skipSpace]

/-! ## Storing the members -/

/-- The values of a Go `int64`, and of `int` and `time.Duration` on the 64-bit platforms the
agent ships for. -/
def InInt64 (x : Int) : Prop := -2 ^ 63 ≤ x ∧ x < 2 ^ 63

instance (x : Int) : Decidable (InInt64 x) := inferInstanceAs (Decidable (_ ∧ _))

/-- The integer fields of a configuration hold values of their Go types. -/
structure Int64Fields (c : Config) : Prop where
  collectionInterval : InInt64 c.collectionInterval
  batchSize : InInt64 c.batchSize
  maxBufferSize : InInt64 c.maxBufferSize
  heartbeatInterval : InInt64 c.heartbeatInterval
  updateCheckInterval : InInt64 c.updateCheckInterval

/-- `ParseInt` reads an optional minus sign and decimal digits as their value. -/
private theorem parseInt64_digits {negative : Bool} {digits : Bytes} (nonempty : digits ≠ [])
    (allDigits : ∀ b ∈ digits, isDigit b = true) (notMinus : digits.head? ≠ some (ascii '-'))
    (small : InInt64 (if negative then -(digitsValue digits : Int) else digitsValue digits)) :
    parseInt64 ((if negative then [ascii '-'] else []) ++ digits) =
      some (if negative then -(digitsValue digits : Int) else digitsValue digits) := by
  have valid : digits ≠ [] ∧ digits.all isDigit = true := ⟨nonempty, List.all_eq_true.mpr allDigits⟩
  cases negative
  · simp only [Bool.false_eq_true, if_false, List.nil_append] at small ⊢
    simp only [parseInt64, notMinus, if_false, valid]
    simpa [InInt64, nonempty] using small
  · simp only [if_true, List.singleton_append] at small ⊢
    simp only [parseInt64, List.head?_cons, List.tail_cons, if_true, valid]
    simpa [InInt64, nonempty] using small

/-- An `int64` as `strconv.FormatInt` writes it reads back as itself. -/
private theorem parseInt64_numberBytes {n : Int} (small : InInt64 n) : parseInt64 (numberBytes n) = some n := by
  obtain ⟨shape, chars⟩ := toString_shape n
  obtain ⟨c, tail, first, digit⟩ := shape.whole_head
  have value : digitsValue ((Nat.toDigits 10 n.natAbs).map ascii) = n.natAbs := by
    rw [digitsValue_map_ascii shape.whole_digits, Decimal.digitsValue_toDigits]
  have signed : (if decide (n < 0) then -(n.natAbs : Int) else n.natAbs) = n := by
    by_cases neg : n < 0
    · simp [neg, abs_of_neg neg]
    · simp [neg, abs_of_nonneg (not_lt.mp neg)]
  have bytes : numberBytes n =
      (if decide (n < 0) then [ascii '-'] else []) ++ (Nat.toDigits 10 n.natAbs).map ascii := by
    rw [numberBytes, asciiBytes, chars]
    cases decide (n < 0) <;> simp [numberChars, fractionPart, exponentPart]
  rw [bytes, parseInt64_digits, value, signed]
  · simp [first]
  · simp only [List.mem_map]
    rintro _ ⟨d, mem, rfl⟩
    exact isDigit_ascii (shape.whole_digits d mem)
  · rw [first]
    exact fun same => ascii_ne_of_isDigit digit (by decide) (Option.some.inj same)
  · rwa [value, signed]

private theorem decodeInt_numberBytes {n : Int} (small : InInt64 n) (field type : String) (old : Int) :
    decodeInt field type old (.number (numberBytes n)) = .ok n := by
  simp [decodeInt, parseInt64_numberBytes small]

private theorem foldlM_omitted {s : Config} {empty : Prop} [Decidable empty] {member' : List Char × Syntax} :
    (if empty then [] else [member']).foldlM member s = if empty then .ok s else member s member' := by
  split
  · rfl
  · simp [List.foldlM]

private theorem ok_bind {α β : Type} (a : α) (f : α → Except GoError β) : (Except.ok a >>= f) = f a := rfl

private theorem string_mk_data (s : String) : String.mk s.data = s := rfl

private theorem ite_ok {α : Type} {e : Prop} [Decidable e] (a b : α) :
    (if e then (Except.ok a : Except GoError α) else .ok b) = .ok (if e then a else b) := by
  split <;> rfl

/-- A choice between two configurations, field by field. -/
private theorem ite_config (e : Prop) [Decidable e] (s t : Config) :
    (if e then s else t) =
      ⟨if e then s.bootstrapped else t.bootstrapped, if e then s.orgID else t.orgID,
        if e then s.agentID else t.agentID, if e then s.installToken else t.installToken,
        if e then s.apiBaseURL else t.apiBaseURL, if e then s.tlsConfig else t.tlsConfig,
        if e then s.collectionInterval else t.collectionInterval, if e then s.batchSize else t.batchSize,
        if e then s.maxBufferSize else t.maxBufferSize, if e then s.bufferDir else t.bufferDir,
        if e then s.heartbeatInterval else t.heartbeatInterval, if e then s.logLevel else t.logLevel,
        if e then s.logFile else t.logFile, if e then s.updateEnabled else t.updateEnabled,
        if e then s.updateCheckInterval else t.updateCheckInterval⟩ := by
  split <;> rfl

private theorem ite_eq_self {α : Type} [DecidableEq α] (a b : α) : (if a = b then b else a) = a := by
  split <;> simp_all

/-- Decoding the members into the zero configuration gives the configuration back: each
member sets the field it came from, and every field left out is empty in both. -/
private theorem foldlM_member_parsedMembers {c : Config} (ints : c.Int64Fields) :
    c.parsedMembers.foldlM member zero = .ok c := by
  simp +decide only [parsedMembers, List.foldlM_append, foldlM_omitted, List.foldlM_cons, List.foldlM_nil,
    member, namesField, stringSyntax, decodeString, decodeBool, Except.map, decodeTLS, tlsMember,
    decodeInt_numberBytes ints.collectionInterval, decodeInt_numberBytes ints.batchSize,
    decodeInt_numberBytes ints.maxBufferSize, decodeInt_numberBytes ints.heartbeatInterval,
    decodeInt_numberBytes ints.updateCheckInterval, if_true, if_false, bind_pure, ok_bind, string_mk_data, ite_ok,
    ite_config, ite_self, decide_eq_true_eq]
  simp [zero, ite_eq_self]

/-- `json.Unmarshal` of `Save`'s encoding gives the configuration back. -/
private theorem unmarshal_marshalIndent {c : Config} (ints : c.Int64Fields) : unmarshal c.marshalIndent = .ok c := by
  simp only [unmarshal, parse_marshalIndent, foldlM_member_parsedMembers ints]

end Config

namespace Supervisor

/-! ## Save, then Load -/

/-- `Load` after a `Save` that returned nil, with the file read without an I/O error, gives
the configuration back, except that an empty organisation ID or install token is replaced by
a non-empty `ORG_ID` or `INSTALL_TOKEN`. With both variables unset it gives the configuration
itself. -/
theorem save_then_load (env : SupervisorEnv) {c : Config} (ints : c.Int64Fields) {w w' : World}
    (saved : save env c w = (.ok (), w')) (readable : env.readFault env.configPath = none) :
    load env w' = .ok { c with
      orgID := if c.orgID = "" ∧ env.environ.orgID ≠ "" then env.environ.orgID else c.orgID
      installToken :=
        if c.installToken = "" ∧ env.environ.installToken ≠ "" then env.environ.installToken
        else c.installToken } ∧
    (env.environ.orgID = "" → env.environ.installToken = "" → load env w' = .ok c) := by
  have loaded : load env w' = .ok (c.fillFromEnvironment env.environ) := by
    simp [load, World.readFile, save_eq_ok env saved, readable, Config.unmarshal_marshalIndent ints]
  refine ⟨loaded, fun noOrg noToken => ?_⟩
  rw [loaded]
  simp [Config.fillFromEnvironment, noOrg, noToken]

/-- The sample machine's configuration, saved with `ORG_ID` and `INSTALL_TOKEN` unset and
loaded again. -/
def unsetEnv : SupervisorEnv := sampleEnv "" "agent-1" fun _ => .complete 0

theorem save_then_load_sample :
    load unsetEnv (save unsetEnv sampleConfig sampleWorld).2 = .ok sampleConfig :=
  (save_then_load unsetEnv ⟨by decide, by decide, by decide, by decide, by decide⟩ (Prod.ext rfl rfl) rfl).2
    rfl rfl

end Supervisor

end EndpointAgent
