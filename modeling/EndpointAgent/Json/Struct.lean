import EndpointAgent.Json.Compact

/-!
# Structs of strings

`json.Marshal` of a struct whose fields are all strings, and `json.Decoder.Decode` into one.
The encoding is an object of the fields in declaration order under their tags, each value
quoted. The decoder reads the first value of the stream and leaves the rest unread; it stores
each member of an object in the field its key names (the field tagged with the key, else the
first whose tag folds to the key's folding), a string as itself and `null` as no change, and
skips a key that names no field. Any other kind of value is an `UnmarshalTypeError`, and the
first such error is what `Decode` returns.

Whatever the strings hold, a text written this way decodes to the zero struct with each member
stored in turn (`decodeStruct_marshalStrings`).
-/

set_option autoImplicit false

namespace EndpointAgent

namespace Json

/-- A string field of a struct `α`: its JSON tag, and how the decoder stores a string in it. -/
structure StringField (α : Type) where
  tag : String
  store : α → String → α

/-- The field a key names: the one tagged with the key, else the first whose tag folds to the
key's folding. -/
def findField {α : Type} (fields : List (StringField α)) (key : List Char) : Option (StringField α) :=
  match fields.find? (fun field => field.tag.data = key) with
  | some field => some field
  | none => fields.find? (fun field => namesField field.tag key)

/-- An `UnmarshalTypeError` for a string field of the struct `typeName`. -/
def fieldTypeError (value : Syntax) (typeName tag : String) : GoError :=
  GoError.new ("json: cannot unmarshal " ++ value.kind ++ " into Go struct field " ++ typeName ++ "." ++
    tag ++ " of type string")

/-- One member of the object: stored in the field its key names, or skipped. -/
def storeMember {α : Type} (typeName : String) (fields : List (StringField α)) (x : α)
    (member : List Char × Syntax) : Except GoError α :=
  match findField fields member.1 with
  | none => .ok x
  | some field =>
    match member.2 with
    | .string _ text => .ok (field.store x (String.mk text))
    | .null => .ok x
    | other => .error (fieldTypeError other typeName field.tag)

/-- `Decoder.Decode`'s read of the first value of a stream: a stream of only space is `EOF`, one
that ends inside the value `unexpected EOF`. -/
def decodeStream (data : Bytes) : Except GoError Syntax :=
  if skipSpace data = [] then .error (GoError.new "EOF")
  else
    match parseValue (data.length + 1) 0 data with
    | .ok (value, _) => .ok value
    | .error err => .error (if err = endOfInput then GoError.new "unexpected EOF" else err)

/-- `json.NewDecoder(r).Decode(&v)` for a struct `v` of string fields that starts as `zero`;
`goType` names the struct in the error for a value that is not an object. -/
def decodeStruct {α : Type} (typeName goType : String) (fields : List (StringField α)) (zero : α)
    (data : Bytes) : Except GoError α :=
  match decodeStream data with
  | .error err => .error err
  | .ok .null => .ok zero
  | .ok (.object members) => members.foldlM (storeMember typeName fields) zero
  | .ok other => .error (GoError.new ("json: cannot unmarshal " ++ other.kind ++
      " into Go value of type " ++ goType))

/-- `json.Marshal` of a struct of strings, given its members in declaration order. -/
def marshalStrings (members : List (String × String)) : Bytes :=
  enclose '{' '}' (members.map fun member => memberText (member.1.data, quote (Utf8.encode member.2.data)))

/-! ## Reading the encoding back -/

/-- A member of a struct of strings as the parser reads it. -/
def stringMember (member : String × String) : List Char × Syntax :=
  (member.1.data, .string (quoteChars member.2.data) member.2.data)

/-- Stores a member's string in the field its key names, as the decoder does. -/
def storeString {α : Type} (fields : List (StringField α)) (x : α) (member : String × String) : α :=
  match findField fields member.1.data with
  | none => x
  | some field => field.store x member.2

private theorem reads_marshalStrings (members : List (String × String)) :
    ReadsAt 1 (marshalStrings members) (.object (members.map stringMember)) := by
  have written : marshalStrings members = enclose '{' '}'
      ((members.map fun member => (member.1.data, quote (Utf8.encode member.2.data))).map memberText) := by
    rw [List.map_map]; rfl
  rw [written]
  refine reads_encloseObject ?_
  rw [List.forall₂_map_left_iff, List.forall₂_map_right_iff, List.forall₂_same]
  exact fun member _ => ⟨rfl, reads_string _⟩

/-- A text that reads as a value is what `Decode` takes from the front of a stream, whatever
closing bytes follow it. -/
private theorem decodeStream_of_reads {n : Nat} {text rest : Bytes} {value : Syntax} (room : n < maxNestingDepth)
    (reads : ReadsAt n text value) (closes : Closes rest) : decodeStream (text ++ rest) = .ok value := by
  have parsed := reads (text ++ rest).length 0 rest (by simp) (by omega) closes
  have begun : skipSpace (text ++ rest) ≠ [] := fun blank => by simp [parseValue, blank] at parsed
  rw [decodeStream, if_neg begun, parsed]

private theorem foldlM_storeMember {α : Type} (typeName : String) (fields : List (StringField α))
    (members : List (String × String)) (x : α) :
    (members.map stringMember).foldlM (storeMember typeName fields) x = .ok (members.foldl (storeString fields) x) := by
  induction members generalizing x with
  | nil => rfl
  | cons member members ih =>
    have stored : storeMember typeName fields x (stringMember member) = .ok (storeString fields x member) := by
      unfold storeMember storeString stringMember
      cases findField fields member.1.data <;> rfl
    rw [List.map_cons, List.foldlM_cons, stored]
    exact ih _

/-- A struct of strings reads back: `Decode` of its encoding, with anything after it that closes
a value, stores each member in turn into the zero struct. -/
theorem decodeStruct_marshalStrings {α : Type} (typeName goType : String) (fields : List (StringField α))
    (zero : α) (members : List (String × String)) {rest : Bytes} (closes : Closes rest) :
    decodeStruct typeName goType fields zero (marshalStrings members ++ rest) =
      .ok (members.foldl (storeString fields) zero) := by
  rw [decodeStruct, decodeStream_of_reads (by decide) (reads_marshalStrings members) closes]
  exact foldlM_storeMember typeName fields members zero

end Json

end EndpointAgent
