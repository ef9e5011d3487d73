import EndpointAgent.Config
import EndpointAgent.Json.Decode

/-!
# The configuration file

`config.Load` and `Config.Save`: the file is the `json.MarshalIndent(c, "", "  ")` encoding
of the struct, whose `omitempty` fields are left out when empty; `Load` decodes it with
`json.Unmarshal` into a zero `Config` and then fills an empty `org_id` or `install_token`
from `ORG_ID` and `INSTALL_TOKEN`.
-/

set_option autoImplicit false

namespace EndpointAgent

namespace Config

open Json

/-! ## Encoding -/

/-- A Go string in quotes. -/
def quoteString (s : String) : Bytes := quote (Utf8.encode s.data)

/-- A number as `strconv` writes it. -/
def numberBytes (n : Int) : Bytes := asciiBytes (toString n)

/-- `true` or `false`. -/
def boolBytes (b : Bool) : Bytes := asciiBytes (if b then "true" else "false")

/-- Spaces for `depth` levels of `"  "`. -/
def indentation (depth : Nat) : Bytes := List.replicate (2 * depth) (ascii ' ')

/-- An object as `json.Indent` lays it out at `depth`: every member on a line of its own,
`"key": value`, the closing brace on a line at the object's own depth. -/
def indentObject (depth : Nat) (members : List (String × Bytes)) : Bytes :=
  ascii '{' :: ((members.map fun member =>
      ascii '\n' :: indentation (depth + 1) ++ quoteString member.1 ++ asciiBytes ": " ++ member.2).intersperse
    [ascii ',']).flatten ++ ascii '\n' :: indentation depth ++ [ascii '}']

/-- A member under `omitempty`: left out when the value is the type's zero. -/
def omitEmpty (key : String) (empty : Bool) (value : Bytes) : List (String × Bytes) :=
  if empty then [] else [(key, value)]

/-- `json.MarshalIndent(c, "", "  ")`. `tls` is a struct, which `omitempty` never leaves
out. -/
def marshalIndent (c : Config) : Bytes :=
  indentObject 0 <|
    [("bootstrapped", boolBytes c.bootstrapped)] ++
    omitEmpty "org_id" (c.orgID = "") (quoteString c.orgID) ++
    omitEmpty "agent_id" (c.agentID = "") (quoteString c.agentID) ++
    omitEmpty "install_token" (c.installToken = "") (quoteString c.installToken) ++
    omitEmpty "api_base_url" (c.apiBaseURL = "") (quoteString c.apiBaseURL) ++
    [("tls", indentObject 1
      [("cert_file", quoteString c.tlsConfig.certFile), ("key_file", quoteString c.tlsConfig.keyFile),
        ("ca_file", quoteString c.tlsConfig.caFile),
        ("insecure_skip_verify", boolBytes c.tlsConfig.insecureSkipVerify)])] ++
    omitEmpty "collection_interval" (c.collectionInterval = 0) (numberBytes c.collectionInterval) ++
    omitEmpty "batch_size" (c.batchSize = 0) (numberBytes c.batchSize) ++
    omitEmpty "max_buffer_size" (c.maxBufferSize = 0) (numberBytes c.maxBufferSize) ++
    omitEmpty "buffer_dir" (c.bufferDir = "") (quoteString c.bufferDir) ++
    omitEmpty "heartbeat_interval" (c.heartbeatInterval = 0) (numberBytes c.heartbeatInterval) ++
    omitEmpty "log_level" (c.logLevel = "") (quoteString c.logLevel) ++
    omitEmpty "log_file" (c.logFile = "") (quoteString c.logFile) ++
    omitEmpty "update_enabled" (c.updateEnabled = false) (boolBytes c.updateEnabled) ++
    omitEmpty "update_check_interval" (c.updateCheckInterval = 0) (numberBytes c.updateCheckInterval)

/-! ## Decoding -/

/-- The zero `Config` that `Load` decodes into. -/
def zero : Config :=
  ⟨false, "", "", "", "", ⟨"", "", "", false⟩, 0, 0, 0, "", 0, "", "", false, 0⟩

/-- `strconv.ParseInt(s, 10, 64)` on a number's text: an integer in the `int64` range. -/
def parseInt64 (text : Bytes) : Option Int :=
  let negative := text.head? = some (ascii '-')
  let digits := if negative then text.tail else text
  if digits ≠ [] ∧ digits.all isDigit then
    let n : Int := if negative then -(digitsValue digits : Int) else digitsValue digits
    if -2 ^ 63 ≤ n ∧ n < 2 ^ 63 then some n else none
  else none

/-- An `UnmarshalTypeError` for a field of `Config`. -/
def typeError (value : Syntax) (field type : String) : GoError :=
  GoError.new ("json: cannot unmarshal " ++ value.kind ++ " into Go struct field Config." ++ field ++
    " of type " ++ type)

/-- A string field: `null` leaves it as it was. -/
def decodeString (field : String) (old : String) : Syntax → Except GoError String
  | .string _ text => .ok (String.mk text)
  | .null => .ok old
  | other => .error (typeError other field "string")

/-- A `bool` field. -/
def decodeBool (field : String) (old : Bool) : Syntax → Except GoError Bool
  | .bool b => .ok b
  | .null => .ok old
  | other => .error (typeError other field "bool")

/-- An integer field (`int`, `int64` or `time.Duration`): the number must be an integer
literal in range. -/
def decodeInt (field type : String) (old : Int) : Syntax → Except GoError Int
  | .number text =>
    match parseInt64 text with
    | some n => .ok n
    | none => .error (GoError.new ("json: cannot unmarshal number " ++ byteText text ++
        " into Go struct field Config." ++ field ++ " of type " ++ type))
  | .null => .ok old
  | other => .error (typeError other field type)

/-- One member of the `tls` object. -/
def tlsMember (tls : TLSConfig) (member : List Char × Syntax) : Except GoError TLSConfig :=
  let (key, value) := member
  if namesField "cert_file" key then
    (decodeString "tls.cert_file" tls.certFile value).map fun certFile => { tls with certFile }
  else if namesField "key_file" key then
    (decodeString "tls.key_file" tls.keyFile value).map fun keyFile => { tls with keyFile }
  else if namesField "ca_file" key then
    (decodeString "tls.ca_file" tls.caFile value).map fun caFile => { tls with caFile }
  else if namesField "insecure_skip_verify" key then
    (decodeBool "tls.insecure_skip_verify" tls.insecureSkipVerify value).map
      fun insecureSkipVerify => { tls with insecureSkipVerify }
  else .ok tls

/-- The `tls` field: an object decodes into the struct already there. -/
def decodeTLS (tls : TLSConfig) : Syntax → Except GoError TLSConfig
  | .object members => members.foldlM tlsMember tls
  | .null => .ok tls
  | other => .error (typeError other "tls" "config.TLSConfig")

/-- One member of the top-level object, stored in the field its key names, or skipped. -/
def member (c : Config) (member : List Char × Syntax) : Except GoError Config :=
  let (key, value) := member
  if namesField "bootstrapped" key then
    (decodeBool "bootstrapped" c.bootstrapped value).map fun bootstrapped => { c with bootstrapped }
  else if namesField "org_id" key then
    (decodeString "org_id" c.orgID value).map fun orgID => { c with orgID }
  else if namesField "agent_id" key then
    (decodeString "agent_id" c.agentID value).map fun agentID => { c with agentID }
  else if namesField "install_token" key then
    (decodeString "install_token" c.installToken value).map fun installToken => { c with installToken }
  else if namesField "api_base_url" key then
    (decodeString "api_base_url" c.apiBaseURL value).map fun apiBaseURL => { c with apiBaseURL }
  else if namesField "tls" key then
    (decodeTLS c.tlsConfig value).map fun tlsConfig => { c with tlsConfig }
  else if namesField "collection_interval" key then
    (decodeInt "collection_interval" "time.Duration" c.collectionInterval value).map
      fun collectionInterval => { c with collectionInterval }
  else if namesField "batch_size" key then
    (decodeInt "batch_size" "int" c.batchSize value).map fun batchSize => { c with batchSize }
  else if namesField "max_buffer_size" key then
    (decodeInt "max_buffer_size" "int64" c.maxBufferSize value).map
      fun maxBufferSize => { c with maxBufferSize }
  else if namesField "buffer_dir" key then
    (decodeString "buffer_dir" c.bufferDir value).map fun bufferDir => { c with bufferDir }
  else if namesField "heartbeat_interval" key then
    (decodeInt "heartbeat_interval" "time.Duration" c.heartbeatInterval value).map
      fun heartbeatInterval => { c with heartbeatInterval }
  else if namesField "log_level" key then
    (decodeString "log_level" c.logLevel value).map fun logLevel => { c with logLevel }
  else if namesField "log_file" key then
    (decodeString "log_file" c.logFile value).map fun logFile => { c with logFile }
  else if namesField "update_enabled" key then
    (decodeBool "update_enabled" c.updateEnabled value).map fun updateEnabled => { c with updateEnabled }
  else if namesField "update_check_interval" key then
    (decodeInt "update_check_interval" "time.Duration" c.updateCheckInterval value).map
      fun updateCheckInterval => { c with updateCheckInterval }
  else .ok c

/-- `json.Unmarshal(data, &cfg)` into a zero `Config`. -/
def unmarshal (data : Bytes) : Except GoError Config :=
  match parse data with
  | .error err => .error err
  | .ok .null => .ok zero
  | .ok (.object members) => members.foldlM member zero
  | .ok other => .error (GoError.new ("json: cannot unmarshal " ++ other.kind ++
      " into Go value of type config.Config"))

/-- The environment overrides at the end of `Load`. -/
def fillFromEnvironment (c : Config) (env : Environment) : Config :=
  { c with
    orgID := if c.orgID = "" ∧ env.orgID ≠ "" then env.orgID else c.orgID
    installToken := if c.installToken = "" ∧ env.installToken ≠ "" then env.installToken
      else c.installToken }

end Config

end EndpointAgent
