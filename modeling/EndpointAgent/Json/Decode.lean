import EndpointAgent.Json.Encode

/-!
# Decoding

`json.Unmarshal` into a `TelemetryBatch`, as `flushBuffer` calls it on a buffered file. The
text is first read whole, as `checkValid` reads it: a syntax error decodes nothing. The value
is then stored: the struct's fields by name (exact, else by case folding), `Timestamp`
through `Time.UnmarshalJSON`, and each record as a `map[string]interface{}` whose numbers
become `float64`s. A later repeated key replaces the earlier one; other keys are skipped.

Error texts are those of the `encoding/json` messages in kind, not byte for byte: no caller
does more with them than log them.
-/

set_option autoImplicit false

namespace EndpointAgent

namespace Json

/-- A JSON text as the scanner reads it. A string keeps its raw bytes between the quotes,
which `Time.UnmarshalJSON` reads, together with its unquoted characters. -/
inductive Syntax where
  | null
  | bool (b : Bool)
  | number (text : Bytes)
  | string (raw : Bytes) (text : List Char)
  | array (items : List Syntax)
  | object (members : List (List Char × Syntax))

/-- Space between tokens. -/
def isSpace (b : UInt8) : Bool :=
  b = ascii ' ' || b = ascii '\t' || b = ascii '\n' || b = ascii '\r'

/-- The bytes after leading space. -/
def skipSpace (s : Bytes) : Bytes := s.dropWhile isSpace

/-- A decimal digit byte. -/
def isDigit (b : UInt8) : Bool := ascii '0' ≤ b && b ≤ ascii '9'

/-- The value of a hexadecimal digit byte. -/
def hexValue? (b : UInt8) : Option Nat :=
  if isDigit b then some (b.toNat - 0x30)
  else if ascii 'a' ≤ b ∧ b ≤ ascii 'f' then some (b.toNat - 0x57)
  else if ascii 'A' ≤ b ∧ b ≤ ascii 'F' then some (b.toNat - 0x37)
  else none

/-! ## Scanning -/

/-- One or more digits at the front. -/
def scanDigits (s : Bytes) : Option (Bytes × Bytes) :=
  match s.takeWhile isDigit with
  | [] => none
  | digits => some (digits, s.dropWhile isDigit)

/-- The integer part of a number: `0`, or a digit `1-9` and any digits after it. -/
def scanInt : Bytes → Option (Bytes × Bytes)
  | [] => none
  | b :: rest =>
    if b = ascii '0' then some ([b], rest)
    else if isDigit b then some (b :: rest.takeWhile isDigit, rest.dropWhile isDigit)
    else none

/-- An optional fraction: a point and one or more digits. -/
def scanFraction : Bytes → Option (Bytes × Bytes)
  | [] => some ([], [])
  | b :: rest =>
    if b = ascii '.' then (scanDigits rest).map fun (digits, after) => (b :: digits, after)
    else some ([], b :: rest)

/-- An optional exponent: `e` or `E`, an optional sign, one or more digits. -/
def scanExponent : Bytes → Option (Bytes × Bytes)
  | [] => some ([], [])
  | b :: rest =>
    if b = ascii 'e' ∨ b = ascii 'E' then
      match rest with
      | c :: more =>
        if c = ascii '+' ∨ c = ascii '-' then
          (scanDigits more).map fun (digits, after) => (b :: c :: digits, after)
        else (scanDigits rest).map fun (digits, after) => (b :: digits, after)
      | [] => none
    else some ([], b :: rest)

/-- A number: an optional minus, the integer part, the fraction, the exponent. -/
def scanNumber (s : Bytes) : Option (Bytes × Bytes) :=
  let (sign, unsigned) :=
    match s with
    | b :: rest => if b = ascii '-' then ([b], rest) else ([], s)
    | [] => ([], s)
  match scanInt unsigned with
  | none => none
  | some (whole, s₁) =>
    match scanFraction s₁ with
    | none => none
    | some (fraction, s₂) =>
      (scanExponent s₂).map fun (exponent, s₃) => (sign ++ whole ++ fraction ++ exponent, s₃)

/-- The four hexadecimal digits of a `\u` escape. -/
def hex4 (s : Bytes) : Option Nat :=
  if s.length < 4 then none
  else ((s.take 4).mapM hexValue?).map fun digits => digits.foldl (fun acc d => 16 * acc + d) 0

/-- The bytes of a string after its opening quote, up to its closing quote, as the scanner
takes them, and what follows the closing quote: an escape is one of `"\/bfnrt` or `u` with
four hexadecimal digits, and no byte below `0x20` may appear. -/
def scanString : Nat → Bytes → Option (Bytes × Bytes)
  | 0, _ => none
  | _ + 1, [] => none
  | fuel + 1, b :: rest =>
    if b = ascii '"' then some ([], rest)
    else if b = ascii '\\' then
      match rest with
      | c :: more =>
        if c ∈ "\"\\/bfnrt".data.map ascii then
          (scanString fuel more).map fun (raw, after) => (b :: c :: raw, after)
        else if c = ascii 'u' ∧ (hex4 more).isSome then
          (scanString fuel (more.drop 4)).map fun (raw, after) => (b :: c :: more.take 4 ++ raw, after)
        else none
      | [] => none
    else if b.toNat < 0x20 then none
    else (scanString fuel rest).map fun (raw, after) => (b :: raw, after)

/-- `getu4`: the code unit of a `\u` escape at the front. -/
def getu4 : Bytes → Option Nat
  | b :: u :: rest => if b = ascii '\\' ∧ u = ascii 'u' then hex4 rest else none
  | _ => none

/-- `utf16.DecodeRune`: a high and a low surrogate make one character. -/
def decodeSurrogates (high low : Nat) : Option Char :=
  if 0xD800 ≤ high ∧ high < 0xDC00 ∧ 0xDC00 ≤ low ∧ low < 0xE000 then
    some (Char.ofNat ((high - 0xD800) * 0x400 + (low - 0xDC00) + 0x10000))
  else none

/-- The character of a one-letter escape. -/
def simpleEscape (c : UInt8) : Char :=
  if c = ascii 'b' then Char.ofNat 0x08
  else if c = ascii 'f' then Char.ofNat 0x0C
  else if c = ascii 'n' then '\n'
  else if c = ascii 'r' then '\r'
  else if c = ascii 't' then '\t'
  else Char.ofNat c.toNat

/-- `unquoteBytes` on the raw bytes of a scanned string, for at most `fuel` characters: a
surrogate escape not followed by the other half of a pair, and a byte that starts no valid
UTF-8 sequence, read as U+FFFD. -/
def unquoteWith : Nat → Bytes → List Char
  | 0, _ => []
  | _ + 1, [] => []
  | fuel + 1, b :: rest =>
    if b = ascii '\\' then
      match rest with
      | c :: more =>
        if c = ascii 'u' then
          match hex4 more with
          | some unit =>
            let after := more.drop 4
            if 0xD800 ≤ unit ∧ unit < 0xE000 then
              match getu4 after >>= decodeSurrogates unit with
              | some pair => pair :: unquoteWith fuel (after.drop 6)
              | none => Utf8.runeError :: unquoteWith fuel after
            else Char.ofNat unit :: unquoteWith fuel after
          | none => []
        else simpleEscape c :: unquoteWith fuel more
      | [] => []
    else if b.toNat < 0x80 then Char.ofNat b.toNat :: unquoteWith fuel rest
    else
      let read := Utf8.decodeRune b rest
      read.1 :: unquoteWith fuel read.2

/-- The characters of a scanned string. -/
def unquote (raw : Bytes) : List Char := unquoteWith raw.length raw

/-- `maxNestingDepth`. -/
def maxNestingDepth : Nat := 10000

/-- The error of a text that ends inside a value. -/
def endOfInput : GoError := GoError.new "unexpected end of JSON input"

/-- A syntax error at a byte. -/
def invalidCharacter (context : String) : GoError :=
  GoError.new ("invalid character " ++ context)

/-- A literal word after its first letter. -/
def scanWord (word : String) (s : Bytes) : Option Bytes :=
  if s.take word.length = asciiBytes word then some (s.drop word.length) else none

mutual

/-- A value, after space, with `depth` arrays and objects open around it. -/
def parseValue : Nat → Nat → Bytes → Except GoError (Syntax × Bytes)
  | 0, _, _ => .error endOfInput
  | fuel + 1, depth, s =>
    match skipSpace s with
    | [] => .error endOfInput
    | b :: rest =>
      if b = ascii '[' ∨ b = ascii '{' then
        if maxNestingDepth ≤ depth then .error (GoError.new "exceeded max depth")
        else
          match skipSpace rest with
          | [] => .error endOfInput
          | c :: more =>
            if b = ascii '[' ∧ c = ascii ']' then .ok (.array [], more)
            else if b = ascii '{' ∧ c = ascii '}' then .ok (.object [], more)
            else if b = ascii '[' then parseItems fuel (depth + 1) [] rest
            else parseMembers fuel (depth + 1) [] rest
      else if b = ascii '"' then
        match scanString rest.length rest with
        | some (raw, after) => .ok (.string raw (unquote raw), after)
        | none => .error (invalidCharacter "in string literal")
      else if b = ascii 't' then
        match scanWord "rue" rest with
        | some after => .ok (.bool true, after)
        | none => .error (invalidCharacter "in literal true")
      else if b = ascii 'f' then
        match scanWord "alse" rest with
        | some after => .ok (.bool false, after)
        | none => .error (invalidCharacter "in literal false")
      else if b = ascii 'n' then
        match scanWord "ull" rest with
        | some after => .ok (.null, after)
        | none => .error (invalidCharacter "in literal null")
      else
        match scanNumber (b :: rest) with
        | some (text, after) => .ok (.number text, after)
        | none => .error (invalidCharacter "looking for beginning of value")

/-- The elements of an array after `[` or `,`; `items` are the ones read so far. -/
def parseItems : Nat → Nat → List Syntax → Bytes → Except GoError (Syntax × Bytes)
  | 0, _, _, _ => .error endOfInput
  | fuel + 1, depth, items, s =>
    match parseValue fuel depth s with
    | .error err => .error err
    | .ok (item, after) =>
      match skipSpace after with
      | [] => .error endOfInput
      | c :: more =>
        if c = ascii ',' then parseItems fuel depth (items ++ [item]) more
        else if c = ascii ']' then .ok (.array (items ++ [item]), more)
        else .error (invalidCharacter "after array element")

/-- The members of an object after `{` or `,`; `members` are the ones read so far. -/
def parseMembers : Nat → Nat → List (List Char × Syntax) → Bytes → Except GoError (Syntax × Bytes)
  | 0, _, _, _ => .error endOfInput
  | fuel + 1, depth, members, s =>
    match skipSpace s with
    | [] => .error endOfInput
    | c :: more =>
      if c ≠ ascii '"' then .error (invalidCharacter "looking for beginning of object key string")
      else
        match scanString more.length more with
        | none => .error (invalidCharacter "in string literal")
        | some (raw, afterKey) =>
          match skipSpace afterKey with
          | [] => .error endOfInput
          | colon :: rest =>
            if colon ≠ ascii ':' then .error (invalidCharacter "after object key")
            else
              match parseValue fuel depth rest with
              | .error err => .error err
              | .ok (value, after) =>
                let members := members ++ [(unquote raw, value)]
                match skipSpace after with
                | [] => .error endOfInput
                | d :: next =>
                  if d = ascii ',' then parseMembers fuel depth members next
                  else if d = ascii '}' then .ok (.object members, next)
                  else .error (invalidCharacter "after object key:value pair")

end

/-- `checkValid` and the scan of the top-level value: one value, then only space. -/
def parse (data : Bytes) : Except GoError Syntax :=
  match parseValue (data.length + 1) 0 data with
  | .error err => .error err
  | .ok (value, rest) =>
    if skipSpace rest = [] then .ok value else .error (invalidCharacter "after top-level value")

/-! ## Storing values -/

/-- The value of decimal digit bytes. -/
def digitsValue (digits : Bytes) : Nat := digits.foldl (fun acc b => 10 * acc + (b.toNat - 0x30)) 0

/-- The decimal a scanned number denotes: its sign, all its significant digits, and the power
of ten that scales them. -/
def decimalOf (text : Bytes) : Bool × Nat × Int :=
  let negative := text.head? = some (ascii '-')
  let body := if negative then text.tail else text
  let notExponent := fun b => b ≠ ascii 'e' ∧ b ≠ ascii 'E'
  let mantissa := body.takeWhile notExponent
  let exponent := (body.dropWhile notExponent).drop 1
  let whole := mantissa.takeWhile (· ≠ ascii '.')
  let fraction := (mantissa.dropWhile (· ≠ ascii '.')).drop 1
  let scale : Int :=
    match exponent with
    | b :: digits =>
      if b = ascii '-' then -digitsValue digits
      else if b = ascii '+' then digitsValue digits else digitsValue (b :: digits)
    | [] => 0
  (negative, digitsValue (whole ++ fraction), scale - fraction.length)

/-- The text of some bytes, one character per byte. -/
def byteText (s : Bytes) : String := String.mk (s.map fun b => Char.ofNat b.toNat)

/-- `convertNumber`: `strconv.ParseFloat(s, 64)`; a value past the largest float is an
`UnmarshalTypeError`. -/
def convertNumber (text : Bytes) : Except GoError Float64 :=
  let (negative, digits, exp10) := decimalOf text
  match Float64.ofDecimal negative digits exp10 with
  | some f => .ok f
  | none => .error (GoError.new ("json: cannot unmarshal number " ++ byteText text ++
      " into Go value of type float64"))

/-- `m[key] = value`. -/
def setField (fields : List (Bytes × Value)) (entry : Bytes × Value) : List (Bytes × Value) :=
  if fields.any (·.1 = entry.1) then fields.map fun old => if old.1 = entry.1 then entry else old
  else fields ++ [entry]

/-- A map from its entries in text order. -/
def buildMap (entries : List (Bytes × Value)) : List (Bytes × Value) := entries.foldl setField []

mutual

/-- `valueInterface`: a value decoded into an `interface{}`. -/
def toValue : Syntax → Except GoError Value
  | .null => .ok .null
  | .bool b => .ok (.bool b)
  | .number text => (convertNumber text).map .float
  | .string _ text => .ok (.string (Utf8.encode text))
  | .array items => (collect (toValues items)).map .array
  | .object members => (collect (toEntries members)).map fun entries => .object (buildMap entries)

/-- The elements of an array, in order. -/
def toValues : List Syntax → List (Except GoError Value)
  | [] => []
  | item :: rest => toValue item :: toValues rest

/-- The members of an object, keys as UTF-8. -/
def toEntries : List (List Char × Syntax) → List (Except GoError (Bytes × Value))
  | [] => []
  | (key, value) :: rest => (toValue value).map (Utf8.encode key, ·) :: toEntries rest

end

/-- `foldName` on one character: ASCII letters to upper case, and the four other characters
whose folding is an ASCII letter (U+0130, U+0131, U+017F, U+212A) to that letter. -/
def foldChar (c : Char) : Char :=
  if 'a' ≤ c ∧ c ≤ 'z' then Char.ofNat (c.toNat - 32)
  else if c.toNat = 0x130 ∨ c.toNat = 0x131 then 'I'
  else if c.toNat = 0x17F then 'S'
  else if c.toNat = 0x212A then 'K'
  else c

/-- A key names a struct field with an ASCII name: the same name, or the same after folding. -/
def namesField (field : String) (key : List Char) : Bool :=
  key = field.data || key.map foldChar = field.data.map foldChar

/-- The kind of value an `UnmarshalTypeError` names. -/
def Syntax.kind : Syntax → String
  | .null => "null"
  | .bool _ => "bool"
  | .number _ => "number"
  | .string _ _ => "string"
  | .array _ => "array"
  | .object _ => "object"

/-- An `UnmarshalTypeError` for a field of `TelemetryBatch`. -/
def typeError (value : Syntax) (field type : String) : GoError :=
  GoError.new ("json: cannot unmarshal " ++ value.kind ++ " into Go struct field TelemetryBatch." ++
    field ++ " of type " ++ type)

/-- An element of `data`: `null` is a nil map, an object a map. -/
def decodeRecord : Syntax → Except GoError Record
  | .null => .ok none
  | .object members => (collect (toEntries members)).map fun entries => some (buildMap entries)
  | other => .error (typeError other "data" "map[string]interface {}")

/-- The `data` field: `null` is a nil slice. -/
def decodeData : Syntax → Except GoError (Option (List Record))
  | .null => .ok none
  | .array items => (collect (items.map decodeRecord)).map some
  | other => .error (typeError other "data" "[]map[string]interface {}")

end Json

namespace TelemetryBatch

open Json

/-- The zero `TelemetryBatch` that `flushBuffer` decodes into. -/
def zero : TelemetryBatch := ⟨[], Time.zero, none⟩

/-- `(*Time).UnmarshalJSON` on a value's raw bytes: only `null` and a string get past its
first check. -/
def decodeTimestamp (t : Time) : Syntax → Except GoError Time
  | .null => t.unmarshalJSON (asciiBytes "null")
  | .string raw _ => t.unmarshalJSON (ascii '"' :: raw ++ [ascii '"'])
  | _ => .error (GoError.new "Time.UnmarshalJSON: input is not a JSON string")

/-- One member of the object: stored in the field its key names, or skipped. `null` leaves
a string as it was. -/
def decodeMember (batch : TelemetryBatch) (member : List Char × Syntax) :
    Except GoError TelemetryBatch :=
  let (key, value) := member
  if namesField "agent_id" key then
    match value with
    | .string _ text => .ok { batch with agentID := Utf8.encode text }
    | .null => .ok batch
    | other => .error (typeError other "agent_id" "string")
  else if namesField "timestamp" key then
    (decodeTimestamp batch.timestamp value).map fun timestamp => { batch with timestamp }
  else if namesField "data" key then
    (decodeData value).map fun data => { batch with data }
  else .ok batch

/-- `json.Unmarshal(data, &batch)` into a zero batch. -/
def unmarshal (data : Bytes) : Except GoError TelemetryBatch :=
  match parse data with
  | .error err => .error err
  | .ok .null => .ok zero
  | .ok (.object members) => members.foldlM decodeMember zero
  | .ok other => .error (GoError.new ("json: cannot unmarshal " ++ other.kind ++
      " into Go value of type sender.TelemetryBatch"))

end TelemetryBatch

end EndpointAgent
