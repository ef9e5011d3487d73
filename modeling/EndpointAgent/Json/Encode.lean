import EndpointAgent.Json.Utf8
import EndpointAgent.Json.Float64
import EndpointAgent.Json.Time

/-!
# Encoding

`json.Marshal` on the values the agent sends: the records collectors emit
(`map[string]interface{}` holding nil, booleans, integers, `float64`s, strings, slices and
nested maps) and the `TelemetryBatch` that carries them. HTML escaping is on, as it is for
`json.Marshal`; a map's keys are written in byte order; the first value that cannot be
encoded, in that order, is the error.
-/

set_option autoImplicit false

namespace EndpointAgent

namespace Json

/-- A Go value inside a record. `null` is a nil interface, map or slice; `int` is a value of
any Go integer type; strings are Go strings, any bytes. -/
inductive Value where
  | null
  | bool (b : Bool)
  | int (n : Int)
  | float (f : Float64)
  | string (s : Bytes)
  | array (items : List Value)
  | object (fields : List (Bytes × Value))

/-- A `map[string]interface{}`; `none` is the nil map. -/
abbrev Record := Option (List (Bytes × Value))

/-- `strings.Compare`: bytes compared in order, a prefix first. -/
def compareBytes : Bytes → Bytes → Ordering
  | [], [] => .eq
  | [], _ :: _ => .lt
  | _ :: _, [] => .gt
  | a :: as, b :: bs => if a < b then .lt else if b < a then .gt else compareBytes as bs

/-- The hexadecimal digit `appendString` writes (lower case). -/
def hexDigit (n : Nat) : UInt8 := ascii (Nat.digitChar n)

/-- A byte below `0x80` inside a quoted string: the two-character escapes, `\u00XX` for the
other control bytes and for `<`, `>` and `&`, and the byte itself otherwise. -/
def escapeASCII (b : UInt8) : Bytes :=
  if b = ascii '\\' ∨ b = ascii '"' then [ascii '\\', b]
  else if b = 0x08 then asciiBytes "\\b"
  else if b = 0x0C then asciiBytes "\\f"
  else if b = ascii '\n' then asciiBytes "\\n"
  else if b = ascii '\r' then asciiBytes "\\r"
  else if b = ascii '\t' then asciiBytes "\\t"
  else if b.toNat < 0x20 ∨ b = ascii '<' ∨ b = ascii '>' ∨ b = ascii '&' then
    asciiBytes "\\u00" ++ [hexDigit (b.toNat / 16), hexDigit (b.toNat % 16)]
  else [b]

/-- The loop of `appendString` over the bytes of a string, for at most `fuel` characters:
a byte that starts no valid UTF-8 sequence becomes the escape of U+FFFD, U+2028 and U+2029 are
escaped, and any other character is copied as it is. -/
def quoteWith : Nat → Bytes → Bytes
  | 0, _ => []
  | _ + 1, [] => []
  | fuel + 1, b :: rest =>
    if b.toNat < 0x80 then escapeASCII b ++ quoteWith fuel rest
    else
      let read := Utf8.decodeRune b rest
      let out :=
        if read.1 = Utf8.runeError ∧ read.2.length = rest.length then asciiBytes "\\ufffd"
        else if read.1 = Char.ofNat 0x2028 ∨ read.1 = Char.ofNat 0x2029 then
          asciiBytes "\\u202" ++ [hexDigit (read.1.toNat % 16)]
        else b :: rest.take (rest.length - read.2.length)
      out ++ quoteWith fuel read.2

/-- `appendString(dst, s, true)`: the string in quotes. -/
def quote (s : Bytes) : Bytes := ascii '"' :: quoteWith s.length s ++ [ascii '"']

/-- Encoded parts between brackets, separated by commas. -/
def enclose (opening closing : Char) (parts : List Bytes) : Bytes :=
  ascii opening :: (parts.intersperse [ascii ',']).flatten ++ [ascii closing]

/-- The first error of a list of encodings, or all of them. -/
def collect {α : Type} : List (Except GoError α) → Except GoError (List α)
  | [] => .ok []
  | .error err :: _ => .error err
  | .ok a :: rest => (collect rest).map (a :: ·)

/-- Encoded map entries in key order, each as `"key":value`. -/
def objectBody (entries : List (Bytes × Except GoError Bytes)) : Except GoError (List Bytes) :=
  collect ((entries.insertionSort fun a b => compareBytes a.1 b.1 ≠ .gt).map fun entry =>
    entry.2.map fun value => quote entry.1 ++ ascii ':' :: value)

mutual

/-- `json.Marshal` of one value. -/
def encode : Value → Except GoError Bytes
  | .null => .ok (asciiBytes "null")
  | .bool b => .ok (asciiBytes (if b then "true" else "false"))
  | .int n => .ok (asciiBytes (toString n))
  | .float f => f.jsonText.map (·.map ascii)
  | .string s => .ok (quote s)
  | .array items => (collect (encodeItems items)).map (enclose '[' ']')
  | .object fields => (objectBody (encodeFields fields)).map (enclose '{' '}')

/-- The encodings of the items of a slice, in order. -/
def encodeItems : List Value → List (Except GoError Bytes)
  | [] => []
  | item :: rest => encode item :: encodeItems rest

/-- The encodings of the values of a map, each with its key. -/
def encodeFields : List (Bytes × Value) → List (Bytes × Except GoError Bytes)
  | [] => []
  | (key, value) :: rest => (key, encode value) :: encodeFields rest

end

/-- A record: a nil map is `null`. -/
def encodeRecord : Record → Except GoError Bytes
  | none => .ok (asciiBytes "null")
  | some fields => encode (.object fields)

end Json

/-- `sender.TelemetryBatch`. `data` is `none` for a nil slice. -/
structure TelemetryBatch where
  agentID : Bytes
  timestamp : Time
  data : Option (List Json.Record)

namespace TelemetryBatch

open Json

/-- The `data` field: a nil slice is `null`. -/
def encodeData : Option (List Record) → Except GoError Bytes
  | none => .ok (asciiBytes "null")
  | some records => (collect (records.map encodeRecord)).map (enclose '[' ']')

/-- `json.Marshal(batch)`: the fields in declaration order under their tags. -/
def marshal (batch : TelemetryBatch) : Except GoError Bytes := do
  let timestamp ← batch.timestamp.marshalJSON
  let data ← encodeData batch.data
  return asciiBytes "\x7b\"agent_id\":" ++ quote batch.agentID ++ asciiBytes ",\"timestamp\":" ++
    timestamp ++ asciiBytes ",\"data\":" ++ data ++ [ascii '}']

end TelemetryBatch

end EndpointAgent
