import EndpointAgent.Json.Reads

/-!
# Compact encodings read back

What `json.Unmarshal` into `interface{}` makes of what `json.Marshal` wrote, and what
`json.Marshal` then writes of that. Arrays and objects are written without space, an
object's members in byte order of their keys; the parser takes them back member by member,
and `valueInterface` stores every number as a `float64` and every string as its UTF-8 bytes.

The second encoding is the first when every integer is below `2^53`, every string and key
is valid UTF-8, no object repeats a key, and the nesting leaves room below
`maxNestingDepth`. Each condition is needed: a larger integer comes back as the nearest
float, which prints with other digits; an invalid byte is written as the escape of U+FFFD and
comes back as that character, which is written as itself; a repeated key keeps only its last
value; and a text nested too deep is refused.
-/

set_option autoImplicit false

namespace EndpointAgent

namespace Json

/-! ## Lists of encodings -/

theorem collect_eq_ok {α : Type} {xs : List (Except GoError α)} {ys : List α} :
    collect xs = .ok ys ↔ List.Forall₂ (fun x y => x = .ok y) xs ys := by
  induction xs generalizing ys with
  | nil => cases ys <;> simp [collect]
  | cons x xs ih =>
    cases x with
    | error err => cases ys <;> simp [collect]
    | ok a =>
      simp only [collect]
      cases h : collect xs <;> cases ys <;> simp [Except.map, ← ih, h]

private theorem encodeItems_eq_map (items : List Value) : encodeItems items = items.map encode := by
  induction items with
  | nil => rfl
  | cons item rest ih => rw [encodeItems, ih, List.map_cons]

theorem encodeFields_eq_map (fields : List (Bytes × Value)) :
    encodeFields fields = fields.map fun field => (field.1, encode field.2) := by
  induction fields with
  | nil => rfl
  | cons field rest ih => rw [encodeFields, ih, List.map_cons]

private theorem toValues_eq_map (items : List Syntax) : toValues items = items.map toValue := by
  induction items with
  | nil => rfl
  | cons item rest ih => rw [toValues, ih, List.map_cons]

/-! ## Byte order -/

private theorem compareBytes_swap : ∀ a b : Bytes, compareBytes b a = (compareBytes a b).swap
  | [], [] => rfl
  | [], _ :: _ => rfl
  | _ :: _, [] => rfl
  | x :: as, y :: bs => by
    have lt : ∀ u v : UInt8, u < v ↔ u.toNat < v.toNat := fun _ _ => Iff.rfl
    simp only [compareBytes]
    by_cases xy : x < y
    · have yx : ¬y < x := by rw [lt] at xy ⊢; omega
      simp [xy, yx, Ordering.swap]
    · by_cases yx : y < x
      · simp [xy, yx, Ordering.swap]
      · simp [xy, yx, compareBytes_swap as bs]

/-- `strings.Compare` of two strings with a first byte: the first bytes, then the rest. -/
private theorem compareBytes_cons_ne_gt (x y : UInt8) (as bs : Bytes) :
    compareBytes (x :: as) (y :: bs) ≠ .gt ↔ x.toNat < y.toNat ∨ x = y ∧ compareBytes as bs ≠ .gt := by
  have lt : ∀ u v : UInt8, u < v ↔ u.toNat < v.toNat := fun _ _ => Iff.rfl
  simp only [compareBytes]
  by_cases xy : x < y
  · simp [xy, (lt x y).mp xy]
  · have xy' := (lt x y).not.mp xy
    by_cases yx : y < x
    · have ne : x ≠ y := fun same => by rw [same, lt] at yx; exact Nat.lt_irrefl _ yx
      simp [xy, yx, xy', ne]
    · have same : x = y := UInt8.ext_iff.mpr (by rw [lt] at yx; omega)
      subst same
      simp [yx]

private theorem compareBytes_total (a b : Bytes) : compareBytes a b ≠ .gt ∨ compareBytes b a ≠ .gt := by
  rw [compareBytes_swap a b]
  cases compareBytes a b <;> simp [Ordering.swap]

private theorem compareBytes_trans :
    ∀ a b c : Bytes, compareBytes a b ≠ .gt → compareBytes b c ≠ .gt → compareBytes a c ≠ .gt
  | [], _, [] => by simp [compareBytes]
  | [], _, _ :: _ => by simp [compareBytes]
  | _ :: _, [], _ => by simp [compareBytes]
  | _ :: _, _ :: _, [] => by simp [compareBytes]
  | x :: as, y :: bs, z :: cs => by
    simp only [compareBytes_cons_ne_gt]
    rintro (xy | ⟨rfl, first⟩) (yz | ⟨rfl, second⟩)
    · exact .inl (by omega)
    · exact .inl xy
    · exact .inl yz
    · exact .inr ⟨rfl, compareBytes_trans as bs cs first second⟩

/-- The order `json.Marshal` writes a map's entries in: by key, as `strings.Compare` orders. -/
def keyOrder {α : Type} (a b : Bytes × α) : Prop := compareBytes a.1 b.1 ≠ .gt

instance {α : Type} : DecidableRel (@keyOrder α) := fun _ _ => inferInstanceAs (Decidable (_ ≠ _))

instance {α : Type} : IsTotal (Bytes × α) keyOrder := ⟨fun a b => compareBytes_total a.1 b.1⟩

instance {α : Type} : IsTrans (Bytes × α) keyOrder := ⟨fun a b c => compareBytes_trans a.1 b.1 c.1⟩

/-! ## Reading arrays and objects -/

/-- A text that starts a value: its first byte is neither space nor a closing bracket. -/
def StartsValue (text : Bytes) : Prop :=
  ∃ b rest, text = b :: rest ∧ isSpace b = false ∧ b ≠ ascii ']'

/-- The parts after the first, each after its comma. -/
def partsAfter : List Bytes → Bytes
  | [] => []
  | part :: rest => ascii ',' :: part ++ partsAfter rest

theorem enclose_cons (opening closing : Char) (part : Bytes) (rest : List Bytes) :
    enclose opening closing (part :: rest) = ascii opening :: part ++ partsAfter rest ++ [ascii closing] := by
  suffices parts : ∀ part rest, ((part :: rest).intersperse [ascii ',']).flatten = part ++ partsAfter rest by
    rw [enclose, parts]
    rfl
  intro part rest
  induction rest generalizing part with
  | nil => simp [partsAfter]
  | cons next rest ih =>
    rw [List.intersperse_cons_cons, List.flatten_cons, List.flatten_cons, ih]
    simp [partsAfter]

/-- One round of the element loop: the element, up to what follows it. -/
private theorem parseItems_item {n depth fuel : Nat} {items : List Syntax} {part : Bytes} {item : Syntax}
    (reads : ReadsAt n part item) (deep : depth + n < maxNestingDepth) (enough : part.length ≤ fuel)
    {after next : Bytes} {c : UInt8} (closes : Closes after) (spaced : skipSpace after = c :: next) :
    parseItems (fuel + 2) depth items (part ++ after) =
      if c = ascii ',' then parseItems (fuel + 1) depth (items ++ [item]) next
      else if c = ascii ']' then .ok (.array (items ++ [item]), next)
      else .error (invalidCharacter "after array element") := by
  simp only [parseItems, reads fuel depth after enough deep closes, spaced]

/-- The element loop reads the elements of an array up to its closing bracket. -/
private theorem parseItems_parts {n depth : Nat} (deep : depth + n < maxNestingDepth) (rest : Bytes) :
    ∀ (parts : List Bytes) (part : Bytes) (items : List Syntax) (item : Syntax) (acc : List Syntax)
      (fuel : Nat),
      List.Forall₂ (fun part item => ReadsAt n part item ∧ StartsValue part) (part :: parts) (item :: items) →
      (part ++ partsAfter parts).length < fuel →
      parseItems (fuel + 1) depth acc (part ++ partsAfter parts ++ ascii ']' :: rest) =
        .ok (.array (acc ++ item :: items), rest) := by
  intro parts
  induction parts with
  | nil =>
    intro part items item acc fuel each enough
    obtain ⟨⟨reads, -⟩, last⟩ := List.forall₂_cons.mp each
    cases List.forall₂_nil_left_iff.mp last
    obtain ⟨fuel, rfl⟩ : ∃ f, fuel = f + 1 := ⟨fuel - 1, by simp [partsAfter] at enough; omega⟩
    simp only [partsAfter, List.append_nil] at enough ⊢
    rw [parseItems_item reads deep (by omega) (fun b mem => by cases mem; exact .inr (.inl rfl))
      (skipSpace_of_head (by decide) _), if_neg (by decide), if_pos rfl]
  | cons next parts ih =>
    intro part items item acc fuel each enough
    obtain ⟨⟨reads, ⟨b, tail, rfl, -⟩⟩, others⟩ := List.forall₂_cons.mp each
    obtain ⟨first, items, rfl⟩ : ∃ first items', items = first :: items' := by
      cases others with
      | cons _ _ => exact ⟨_, _, rfl⟩
    simp only [partsAfter, List.length_append, List.length_cons] at enough
    obtain ⟨fuel, rfl⟩ : ∃ f, fuel = f + 1 := ⟨fuel - 1, by omega⟩
    have continued := ih next items first (acc ++ [item]) fuel others (by simp only [List.length_append]; omega)
    simp only [partsAfter, List.cons_append, List.append_assoc] at continued ⊢
    rw [← List.cons_append, parseItems_item reads deep (by simp only [List.length_cons]; omega)
      (fun b mem => by cases mem; exact .inl rfl) (skipSpace_of_head (by decide) _), if_pos rfl, continued]
    rfl

/-- An array reads back as its elements, with one level of nesting more than they have. -/
theorem reads_encloseArray {n : Nat} {parts : List Bytes} {items : List Syntax}
    (each : List.Forall₂ (fun part item => ReadsAt n part item ∧ StartsValue part) parts items) :
    ReadsAt (n + 1) (enclose '[' ']' parts) (.array items) := by
  intro fuel depth rest enough deep closes
  have open' : ¬maxNestingDepth ≤ depth := by omega
  cases each with
  | nil =>
    simp only [enclose, List.intersperse_nil, List.flatten_nil, List.cons_append, List.nil_append,
      List.singleton_append, parseValue, skipSpace_of_head (by decide : isSpace (ascii '[') = false),
      skipSpace_of_head (by decide : isSpace (ascii ']') = false), true_or, and_self, if_true, if_neg open']
  | @cons part item parts items first others =>
    obtain ⟨reads, ⟨b, tail, rfl, notSpace, notClose⟩⟩ := first
    rw [enclose_cons] at enough ⊢
    simp only [List.length_cons, List.length_append, List.length_singleton] at enough
    obtain ⟨fuel, rfl⟩ : ∃ f, fuel = f + 1 := ⟨fuel - 1, by omega⟩
    have loop := parseItems_parts (by omega : depth + 1 + n < maxNestingDepth) rest parts (b :: tail) items
      item [] fuel (.cons ⟨reads, b, tail, rfl, notSpace, notClose⟩ others)
      (by simp only [List.length_append, List.length_cons] at enough ⊢; omega)
    simp only [List.cons_append, List.append_assoc, List.singleton_append] at loop ⊢
    simp only [parseValue, skipSpace_of_head (by decide : isSpace (ascii '[') = false), open', if_false,
      skipSpace_of_head notSpace, notClose, if_true, true_or, and_false, false_and, if_false, loop,
      List.nil_append]
    rfl

/-- A member as `json.Marshal` writes it: the quoted key, a colon and the value. -/
def memberText (member : List Char × Bytes) : Bytes := quote (Utf8.encode member.1) ++ ascii ':' :: member.2

private theorem memberText_append (member : List Char × Bytes) (after : Bytes) :
    memberText member ++ after =
      ascii '"' :: (quoteChars member.1 ++ ascii '"' :: ascii ':' :: (member.2 ++ after)) := by
  simp [memberText, quote_encode]

/-- One round of the member loop: the key, the colon and the value, up to what follows it. -/
private theorem parseMembers_pair {n depth fuel : Nat} {acc : List (List Char × Syntax)} {key : List Char}
    {value : Bytes} {parsed : Syntax} (reads : ReadsAt n value parsed) (deep : depth + n < maxNestingDepth)
    (enough : value.length ≤ fuel) {after next : Bytes} {c : UInt8} (closes : Closes after)
    (spaced : skipSpace after = c :: next) :
    parseMembers (fuel + 2) depth acc (memberText (key, value) ++ after) =
      if c = ascii ',' then parseMembers (fuel + 1) depth (acc ++ [(key, parsed)]) next
      else if c = ascii '}' then .ok (.object (acc ++ [(key, parsed)]), next)
      else .error (invalidCharacter "after object key:value pair") := by
  rw [memberText_append]
  simp only [parseMembers, skipSpace_of_head (by decide : isSpace (ascii '"') = false), ne_eq,
    not_true_eq_false, if_false]
  rw [scanString_quoteChars _ _ _ (by simp)]
  simp only [skipSpace_of_head (by decide : isSpace (ascii ':') = false), not_true_eq_false, if_false,
    reads fuel depth after enough deep closes, unquote_quoteChars, spaced]

private theorem value_length_lt_memberText (key : List Char) (value : Bytes) :
    value.length + 2 < (memberText (key, value)).length := by
  simp [memberText, quote_encode]
  omega

/-- The member loop reads the members of an object up to its closing brace. -/
private theorem parseMembers_parts {n depth : Nat} (deep : depth + n < maxNestingDepth) (rest : Bytes) :
    ∀ (members : List (List Char × Bytes)) (member : List Char × Bytes)
      (parsed : List (List Char × Syntax)) (first : List Char × Syntax) (acc : List (List Char × Syntax))
      (fuel : Nat),
      List.Forall₂ (fun member parsed => member.1 = parsed.1 ∧ ReadsAt n member.2 parsed.2)
        (member :: members) (first :: parsed) →
      (memberText member ++ partsAfter (members.map memberText)).length < fuel →
      parseMembers (fuel + 1) depth acc
          (memberText member ++ partsAfter (members.map memberText) ++ ascii '}' :: rest) =
        .ok (.object (acc ++ first :: parsed), rest) := by
  intro members
  induction members with
  | nil =>
    rintro ⟨key, value⟩ parsed ⟨_, read⟩ acc fuel each enough
    obtain ⟨⟨rfl, reads⟩, last⟩ := List.forall₂_cons.mp each
    cases List.forall₂_nil_left_iff.mp last
    have reads : ReadsAt n value read := reads
    have long := value_length_lt_memberText key value
    simp only [List.map_nil, partsAfter, List.append_nil] at enough ⊢
    obtain ⟨fuel, rfl⟩ : ∃ f, fuel = f + 1 := ⟨fuel - 1, by omega⟩
    rw [parseMembers_pair reads deep (by omega)
      (fun b mem => by cases mem; exact .inr (.inr (.inl rfl))) (skipSpace_of_head (by decide) _),
      if_neg (by decide), if_pos rfl]
  | cons next members ih =>
    rintro ⟨key, value⟩ parsed ⟨_, read⟩ acc fuel each enough
    obtain ⟨⟨rfl, reads⟩, others⟩ := List.forall₂_cons.mp each
    obtain ⟨first, parsed, rfl⟩ : ∃ first parsed', parsed = first :: parsed' := by
      cases others with
      | cons _ _ => exact ⟨_, _, rfl⟩
    have reads : ReadsAt n value read := reads
    have long := value_length_lt_memberText key value
    simp only [List.map_cons, partsAfter, List.length_append, List.length_cons] at enough
    obtain ⟨fuel, rfl⟩ : ∃ f, fuel = f + 1 := ⟨fuel - 1, by omega⟩
    have continued := ih next parsed first (acc ++ [(key, read)]) fuel others
      (by simp only [List.length_append]; omega)
    simp only [List.map_cons, partsAfter, List.cons_append, List.append_assoc] at continued ⊢
    rw [parseMembers_pair reads deep (by omega) (fun b mem => by cases mem; exact .inl rfl)
      (skipSpace_of_head (by decide) _), if_pos rfl, continued]
    rfl

/-- An object reads back as its members, with one level of nesting more than their values. -/
theorem reads_encloseObject {n : Nat} {members : List (List Char × Bytes)}
    {parsed : List (List Char × Syntax)}
    (each : List.Forall₂ (fun member parsed => member.1 = parsed.1 ∧ ReadsAt n member.2 parsed.2)
      members parsed) :
    ReadsAt (n + 1) (enclose '{' '}' (members.map memberText)) (.object parsed) := by
  intro fuel depth rest enough deep closes
  have open' : ¬maxNestingDepth ≤ depth := by omega
  cases each with
  | nil =>
    simp only [List.map_nil, enclose, List.intersperse_nil, List.flatten_nil, List.cons_append,
      List.nil_append, List.singleton_append, parseValue,
      skipSpace_of_head (by decide : isSpace (ascii '\x7b') = false),
      skipSpace_of_head (by decide : isSpace (ascii '\x7d') = false), or_true, and_self, if_true,
      if_neg open', if_neg (by decide : ¬(ascii '\x7b' = ascii '[' ∧ ascii '\x7d' = ascii ']'))]
  | @cons member first members parsed head others =>
    rw [List.map_cons, enclose_cons] at enough ⊢
    simp only [List.length_cons, List.length_append, List.length_singleton] at enough
    obtain ⟨fuel, rfl⟩ : ∃ f, fuel = f + 1 := ⟨fuel - 1, by omega⟩
    have loop := parseMembers_parts (by omega : depth + 1 + n < maxNestingDepth) rest members member
      parsed first [] fuel (.cons head others) (by simp only [List.length_append]; omega)
    simp only [List.cons_append, List.append_assoc, List.singleton_append] at loop ⊢
    rw [memberText_append] at loop ⊢
    simp only [parseValue, skipSpace_of_head (by decide : isSpace (ascii '\x7b') = false), or_true,
      if_true, if_neg open', skipSpace_of_head (by decide : isSpace (ascii '"') = false),
      if_neg (by decide : ¬(ascii '\x7b' = ascii '[' ∧ ascii '"' = ascii ']')),
      true_and, if_neg (by decide : ¬ascii '"' = ascii '\x7d'),
      if_neg (by decide : ¬ascii '\x7b' = ascii '['), loop, List.nil_append]

/-! ## Values that replay -/

theorem ReadsAt.le {m n : Nat} {text : Bytes} {value : Syntax} (reads : ReadsAt m text value) (le : m ≤ n) :
    ReadsAt n text value :=
  fun fuel depth rest enough deep closes => reads fuel depth rest enough (by omega) closes

theorem reads_null : ReadsAt 0 (asciiBytes "null") .null := by
  intro fuel depth rest _ _ _
  rfl

theorem NumberText.starts {text : Bytes} (number : NumberText text) : StartsValue text := by
  obtain ⟨b, more, rfl, lead⟩ := number.head
  refine ⟨b, more, rfl, (number_head lead).1, ?_⟩
  rcases lead with rfl | digit
  · decide
  · have range := (isDigit_iff b).mp digit
    rintro rfl
    revert range
    decide

/-- A value whose encoding `flushBuffer` reads back into the same text, with `n` levels of
nesting in it: every integer below `2^53`, every string and key valid UTF-8, and no key
twice in one object. -/
inductive Replayable : Nat → Value → Prop
  | null {n : Nat} : Replayable n .null
  | bool {n : Nat} (b : Bool) : Replayable n (.bool b)
  | int {n : Nat} {i : Int} (small : i.natAbs < 2 ^ 53) : Replayable n (.int i)
  | float {n : Nat} (f : Float64) : Replayable n (.float f)
  | string {n : Nat} {s : Bytes} (valid : Utf8.Valid s) : Replayable n (.string s)
  | array {n : Nat} {items : List Value} (each : ∀ item ∈ items, Replayable n item) :
      Replayable (n + 1) (.array items)
  | object {n : Nat} {fields : List (Bytes × Value)} (distinct : (fields.map Prod.fst).Nodup)
      (keys : ∀ field ∈ fields, Utf8.Valid field.1) (each : ∀ field ∈ fields, Replayable n field.2) :
      Replayable (n + 1) (.object fields)

/-- `text` reads back, with `n` levels of nesting, as a value that `json.Marshal` writes as
`text` again. -/
def Replays (n : Nat) (text : Bytes) : Prop :=
  StartsValue text ∧ ∃ read value, ReadsAt n text read ∧ toValue read = .ok value ∧ encode value = .ok text

/-- The parts of an array read back one by one, each as something that encodes to it again. -/
theorem readBack_parts {α : Type} {n : Nat} {enc : α → Except GoError Bytes} {dec : Syntax → Except GoError α}
    {xs : List α} {parts : List Bytes}
    (encoded : List.Forall₂ (fun x part => enc x = .ok part) xs parts)
    (each : ∀ x ∈ xs, ∀ part, enc x = .ok part →
      StartsValue part ∧ ∃ read y, ReadsAt n part read ∧ dec read = .ok y ∧ enc y = .ok part) :
    ∃ reads ys, List.Forall₂ (fun part read => ReadsAt n part read ∧ StartsValue part) parts reads ∧
      collect (reads.map dec) = .ok ys ∧ collect (ys.map enc) = .ok parts := by
  induction encoded with
  | nil => exact ⟨[], [], .nil, rfl, rfl⟩
  | @cons x part xs parts first rest ih =>
    obtain ⟨starts, read, y, reads, decoded, reencoded⟩ := each x (List.mem_cons_self _ _) part first
    obtain ⟨readsAfter, ys, readsRest, decodedRest, reencodedRest⟩ :=
      ih fun x mem => each x (List.mem_cons_of_mem _ mem)
    refine ⟨read :: readsAfter, y :: ys, .cons ⟨reads, starts⟩ readsRest, ?_, ?_⟩
    · simp [collect, decoded, decodedRest, Except.map]
    · simp [collect, reencoded, reencodedRest, Except.map]

/-- `objectBody` sorts the members by key, whatever their encodings. -/
theorem objectBody_encodeFields (fields : List (Bytes × Value)) :
    objectBody (encodeFields fields) =
      collect ((fields.insertionSort keyOrder).map fun field =>
        (encode field.2).map fun value => quote field.1 ++ ascii ':' :: value) := by
  rw [objectBody, encodeFields_eq_map, ← List.map_insertionSort keyOrder _
    (fun field => (field.1, encode field.2)) fields (fun _ _ _ _ => Iff.rfl), List.map_map]
  rfl

private theorem replays_fields {n : Nat} {fields : List (Bytes × Value)} {parts : List Bytes}
    (encoded : List.Forall₂ (fun field part =>
      (encode field.2).map (fun value => quote field.1 ++ ascii ':' :: value) = .ok part) fields parts)
    (keys : ∀ field ∈ fields, Utf8.Valid field.1)
    (each : ∀ field ∈ fields, ∀ text, encode field.2 = .ok text → Replays n text) :
    ∃ members parsed values, parts = members.map memberText ∧
      List.Forall₂ (fun member parsed => member.1 = parsed.1 ∧ ReadsAt n member.2 parsed.2) members parsed ∧
      collect (toEntries parsed) = .ok values ∧ values.map Prod.fst = fields.map Prod.fst ∧
      collect (values.map fun field => (encode field.2).map fun value => quote field.1 ++ ascii ':' :: value) =
        .ok parts := by
  induction encoded with
  | nil => exact ⟨[], [], [], rfl, .nil, rfl, rfl, rfl⟩
  | @cons field part fields parts first rest ih =>
    obtain ⟨text, encodedValue, rfl⟩ := (except_map_eq_ok _ _ _).mp first
    obtain ⟨-, read, value, reads, decoded, reencoded⟩ := each field (List.mem_cons_self _ _) text encodedValue
    obtain ⟨members, parsed, values, rfl, readsRest, decodedRest, keysRest, reencodedRest⟩ :=
      ih (fun f mem => keys f (List.mem_cons_of_mem _ mem)) (fun f mem => each f (List.mem_cons_of_mem _ mem))
    have valid : Utf8.encode (Utf8.decode field.1) = field.1 := keys field (List.mem_cons_self _ _)
    refine ⟨(Utf8.decode field.1, text) :: members, (Utf8.decode field.1, read) :: parsed,
      (field.1, value) :: values, ?_, .cons ⟨rfl, reads⟩ readsRest, ?_, ?_, ?_⟩
    · simp [memberText, valid]
    · simp [toEntries, collect, decoded, decodedRest, valid, Except.map]
    · simp [keysRest]
    · have head : (encode value).map (fun v => quote field.1 ++ ascii ':' :: v) =
          .ok (quote field.1 ++ ascii ':' :: text) := by
        rw [reencoded]
        rfl
      simp only [List.map_cons, head, collect, reencodedRest]
      rfl

/-- Storing entries whose keys are all different keeps them in order. -/
private theorem foldl_setField {acc entries : List (Bytes × Value)} (distinct : ((acc ++ entries).map Prod.fst).Nodup) :
    entries.foldl setField acc = acc ++ entries := by
  induction entries generalizing acc with
  | nil => simp
  | cons entry rest ih =>
    have fresh : ¬(acc.any fun old => decide (old.1 = entry.1)) = true := by
      simp only [List.any_eq_true, decide_eq_true_eq, not_exists, not_and]
      intro old mem same
      rw [List.map_append, List.nodup_append] at distinct
      exact distinct.2.2 (List.mem_map_of_mem Prod.fst mem) (by rw [same]; exact List.mem_cons_self _ _)
    rw [List.foldl_cons, setField, if_neg fresh, ih (by simpa using distinct)]
    simp

theorem buildMap_of_nodup {entries : List (Bytes × Value)} (distinct : (entries.map Prod.fst).Nodup) :
    buildMap entries = entries :=
  foldl_setField (by simpa using distinct)

private theorem sorted_of_keys {α β : Type} {l : List (Bytes × α)} {l' : List (Bytes × β)}
    (same : l.map Prod.fst = l'.map Prod.fst) (sorted : List.Sorted keyOrder l) : List.Sorted keyOrder l' := by
  have keys : List.Pairwise (fun a b : Bytes => compareBytes a b ≠ .gt) (l.map Prod.fst) :=
    (List.pairwise_map (f := Prod.fst)).mpr sorted
  rw [same] at keys
  exact (List.pairwise_map (f := Prod.fst)).mp keys

/-- An object's encoding reads back as an object whose members, stored in a map, encode to the
same text again. -/
theorem replays_object {n : Nat} {fields : List (Bytes × Value)} {text : Bytes}
    (distinct : (fields.map Prod.fst).Nodup) (keys : ∀ field ∈ fields, Utf8.Valid field.1)
    (each : ∀ field ∈ fields, ∀ text, encode field.2 = .ok text → Replays n text)
    (encoded : encode (.object fields) = .ok text) :
    ∃ parsed decoded, StartsValue text ∧ ReadsAt (n + 1) text (.object parsed) ∧
      collect (toEntries parsed) = .ok decoded ∧ (decoded.map Prod.fst).Nodup ∧
      encode (.object decoded) = .ok text := by
  obtain ⟨parts, body, rfl⟩ := (except_map_eq_ok _ _ _).mp encoded
  rw [objectBody_encodeFields, collect_eq_ok, List.forall₂_map_left_iff] at body
  have perm := List.perm_insertionSort keyOrder fields
  obtain ⟨members, parsed, values, rfl, reads, decoded, sameKeys, reencoded⟩ :=
    replays_fields body (fun f mem => keys f (perm.subset mem)) fun f mem => each f (perm.subset mem)
  have distinct' : (values.map Prod.fst).Nodup := by
    rw [sameKeys]
    exact (perm.map Prod.fst).nodup_iff.mpr distinct
  have sorted := sorted_of_keys sameKeys.symm (List.sorted_insertionSort keyOrder fields)
  refine ⟨parsed, values, ⟨_, _, rfl, by decide, by decide⟩, reads_encloseObject reads, decoded, distinct', ?_⟩
  rw [encode, objectBody_encodeFields, sorted.insertionSort_eq, reencoded]
  rfl

/-- Every replayable value's encoding reads back as a value with the same encoding. -/
theorem Replayable.replays {n : Nat} {v : Value} (replayable : Replayable n v) {text : Bytes}
    (encoded : encode v = .ok text) : Replays n text := by
  induction replayable generalizing text with
  | null =>
    cases encoded
    exact ⟨⟨_, _, rfl, rfl, by decide⟩, .null, .null, reads_null.le (Nat.zero_le _), rfl, rfl⟩
  | bool b =>
    cases encoded
    refine ⟨?_, .bool b, .bool b, (reads_bool b).le (Nat.zero_le _), rfl, rfl⟩
    cases b <;> exact ⟨_, _, rfl, rfl, by decide⟩
  | int small =>
    cases encoded
    obtain ⟨number, g, converted, written⟩ := int_readBack _ small
    exact ⟨number.starts, .number _, .float g, number.reads.le (Nat.zero_le _),
      by rw [toValue, converted]; rfl, written⟩
  | float f =>
    obtain ⟨number, converted⟩ := float_readBack encoded
    exact ⟨number.starts, .number text, .float f, number.reads.le (Nat.zero_le _),
      by rw [toValue, converted]; rfl, encoded⟩
  | @string n s valid =>
    cases encoded
    have reads := reads_string (Utf8.decode s)
    rw [show Utf8.encode (Utf8.decode s) = s from valid] at reads
    exact ⟨⟨_, _, rfl, rfl, by decide⟩, _, .string s, reads.le (Nat.zero_le _),
      by rw [toValue, show Utf8.encode (Utf8.decode s) = s from valid], rfl⟩
  | @array n items each ih =>
    obtain ⟨parts, collected, rfl⟩ := (except_map_eq_ok _ _ _).mp encoded
    rw [encodeItems_eq_map, collect_eq_ok, List.forall₂_map_left_iff] at collected
    obtain ⟨readItems, values, reads, decoded, reencoded⟩ :=
      readBack_parts collected fun item mem _ encodedItem => ih item mem encodedItem
    refine ⟨⟨_, _, rfl, by decide, by decide⟩, .array readItems, .array values, reads_encloseArray reads, ?_, ?_⟩
    · rw [toValue, toValues_eq_map, decoded]
      rfl
    · rw [encode, encodeItems_eq_map, reencoded]
      rfl
  | @object n fields distinct keys each ih =>
    obtain ⟨parsed, decoded, starts, reads, collected, distinct', reencoded⟩ :=
      replays_object distinct keys (fun f mem _ encodedField => ih f mem encodedField) encoded
    refine ⟨starts, .object parsed, .object decoded, reads, ?_, reencoded⟩
    rw [toValue, collected]
    simp [Except.map, buildMap_of_nodup distinct']

end Json

end EndpointAgent
