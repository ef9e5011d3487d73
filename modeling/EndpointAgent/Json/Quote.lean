import EndpointAgent.Json.Number

/-!
# Strings read back

What the decoder makes of a string that `appendString` quoted. For a string of valid UTF-8,
the encoder writes one piece per character: an ASCII byte as itself or escaped, U+2028 and
U+2029 as `\u` escapes, any other character as its own UTF-8 bytes. The scanner takes the
quoted text up to its closing quote, and `unquote` reads each piece back as its character, so
the decoded string is the string that was encoded.
-/

set_option autoImplicit false

namespace EndpointAgent

namespace Utf8

/-- Bytes that are the UTF-8 encoding of some characters: decoding them loses nothing. -/
def Valid (s : Bytes) : Prop := encode (decode s) = s

instance (s : Bytes) : Decidable (Valid s) := inferInstanceAs (Decidable (_ = _))

theorem valid_iff (s : Bytes) : Valid s ↔ ∃ text, encode text = s :=
  ⟨fun valid => ⟨_, valid⟩, fun ⟨text, encoded⟩ => by rw [Valid, ← encoded, decode_encode]⟩

private theorem toNat_ofNat' {n : Nat} (small : n < 256) : (UInt8.ofNat n).toNat = n :=
  UInt8.toNat_ofNat_of_lt small

/-- A character outside ASCII takes two bytes or more, each at least `0x80`. -/
theorem encodeChar_multi {c : Char} (wide : 0x80 ≤ c.toNat) :
    ∃ b₀ b₁ more, encodeChar c = b₀ :: b₁ :: more ∧ ∀ b ∈ encodeChar c, 0x80 ≤ b.toNat := by
  have bounds : c.toNat < 0xD800 ∨ (0xDFFF < c.toNat ∧ c.toNat < 0x110000) := c.valid
  unfold encodeChar
  generalize c.toNat = v at wide bounds ⊢
  dsimp only
  rw [if_neg (by omega)]
  split_ifs <;> refine ⟨_, _, _, rfl, ?_⟩ <;> simp only [List.mem_cons, List.not_mem_nil, or_false] <;>
    rintro b (rfl | rfl | rfl | rfl) <;> rw [toNat_ofNat' (by omega)] <;> omega

end Utf8

namespace Json

/-! ## What the encoder writes -/

/-- The bytes `appendString` writes for one character of a valid UTF-8 string. -/
def quoteChar (c : Char) : Bytes :=
  if c.toNat < 0x80 then escapeASCII (ascii c)
  else if c = Char.ofNat 0x2028 ∨ c = Char.ofNat 0x2029 then
    asciiBytes "\\u202" ++ [hexDigit (c.toNat % 16)]
  else Utf8.encodeChar c

/-- The text between the quotes `appendString` writes for some characters. -/
def quoteChars (text : List Char) : Bytes := text.flatMap quoteChar

private theorem ite_ne_nil {α : Type} {p : Prop} [Decidable p] {a b : List α} (ha : a ≠ []) (hb : b ≠ []) :
    (if p then a else b) ≠ [] := by
  split <;> assumption

private theorem escapeASCII_ne_nil (b : UInt8) : escapeASCII b ≠ [] := by
  unfold escapeASCII
  repeat' apply ite_ne_nil
  all_goals exact List.cons_ne_nil _ _

private theorem quoteChar_ne_nil (c : Char) : quoteChar c ≠ [] := by
  unfold quoteChar Utf8.encodeChar
  repeat' apply ite_ne_nil
  all_goals first
    | exact escapeASCII_ne_nil _
    | exact List.cons_ne_nil _ _

/-- The loop of `appendString` writes a character's piece and goes on after its bytes. -/
private theorem quoteWith_encodeChar (c : Char) (rest : Bytes) (fuel : Nat) :
    quoteWith (fuel + 1) (Utf8.encodeChar c ++ rest) = quoteChar c ++ quoteWith fuel rest := by
  by_cases narrow : c.toNat < 0x80
  · have small : (ascii c).toNat < 0x80 := by rw [ascii_toNat (by omega)]; exact narrow
    simp only [Utf8.encodeChar, if_pos narrow, List.cons_append, List.nil_append, quoteWith, quoteChar]
    exact if_pos small
  · obtain ⟨b₀, b₁, more, bytes, wide⟩ := @Utf8.encodeChar_multi c (by omega)
    obtain ⟨b₀', tail, split, read⟩ := Utf8.decodeRune_encodeChar c rest
    rw [bytes, List.cons_append, List.cons.injEq] at split
    obtain ⟨rfl, rfl⟩ := split
    rw [bytes] at wide
    have lead : ¬b₀.toNat < 0x80 := Nat.not_lt.mpr (wide _ (List.mem_cons_self _ _))
    rw [List.cons_append] at read
    have valid : ¬(c = Utf8.runeError ∧ rest.length = (b₁ :: (more ++ rest)).length) := fun ⟨_, same⟩ => by
      simp only [List.length_cons, List.length_append] at same
      omega
    have taken : (b₁ :: (more ++ rest)).take ((b₁ :: (more ++ rest)).length - rest.length) = b₁ :: more := by
      rw [← List.cons_append, List.length_append, Nat.add_sub_cancel, List.take_left' rfl]
    simp only [bytes, List.cons_append, quoteWith, if_neg lead, read, if_neg valid, taken, quoteChar,
      if_neg narrow]

/-- On valid UTF-8, `appendString` writes the pieces of its characters. -/
private theorem quoteWith_encode (text : List Char) (fuel : Nat) (enough : text.length ≤ fuel) :
    quoteWith fuel (Utf8.encode text) = quoteChars text := by
  induction text generalizing fuel with
  | nil => cases fuel <;> rfl
  | cons c rest ih =>
    obtain ⟨fuel, rfl⟩ : ∃ f, fuel = f + 1 := ⟨fuel - 1, by simp at enough; omega⟩
    rw [Utf8.encode, List.flatMap_cons, ← Utf8.encode, quoteWith_encodeChar,
      ih fuel (by simp at enough; omega)]
    rfl

/-! ## One character as the decoder reads it -/

/-- The character a piece of a quoted string stands for: a byte from `0x20` to `0x7F` other
than a quote or a backslash, a two-character escape, or a `\u` escape of a code point outside
the surrogates. -/
def escapedChar? : Bytes → Option Char
  | [b] =>
    if 0x20 ≤ b.toNat ∧ b.toNat < 0x80 ∧ b ≠ ascii '"' ∧ b ≠ ascii '\\' then some (Char.ofNat b.toNat)
    else none
  | [b, e] => if b = ascii '\\' ∧ e ∈ "\"\\/bfnrt".data.map ascii then some (simpleEscape e) else none
  | [b, u, h₀, h₁, h₂, h₃] =>
    if b = ascii '\\' ∧ u = ascii 'u' then
      (hex4 [h₀, h₁, h₂, h₃]).bind fun unit =>
        if 0xD800 ≤ unit ∧ unit < 0xE000 then none else some (Char.ofNat unit)
    else none
  | _ => none

/-- A byte that is neither a quote, a backslash nor a control byte is copied by the scanner. -/
private theorem scanString_plain {b : UInt8} (notQuote : b ≠ ascii '"') (notBackslash : b ≠ ascii '\\')
    (low : 0x20 ≤ b.toNat) (rest : Bytes) (fuel : Nat) :
    scanString (fuel + 1) (b :: rest) = (scanString fuel rest).map fun (raw, after) => (b :: raw, after) := by
  simp only [scanString, if_neg notQuote, if_neg notBackslash, if_neg (Nat.not_lt.mpr low)]

/-- The scanner takes a piece whole. -/
private theorem scanString_escaped {piece : Bytes} {c : Char} (escaped : escapedChar? piece = some c)
    (rest : Bytes) (fuel : Nat) :
    scanString (fuel + 1) (piece ++ rest) =
      (scanString fuel rest).map fun (raw, after) => (piece ++ raw, after) := by
  unfold escapedChar? at escaped
  split at escaped
  · rename_i b
    obtain ⟨low, -, notQuote, notBackslash⟩ := (ite_ne_right_iff.mp (ne_of_eq_of_ne escaped (by simp))).1
    exact scanString_plain notQuote notBackslash low rest fuel
  · rename_i b e
    obtain ⟨rfl, mem⟩ := (ite_ne_right_iff.mp (ne_of_eq_of_ne escaped (by simp))).1
    show scanString (fuel + 1) (ascii '\\' :: e :: rest) = _
    simp only [scanString, if_neg (by decide : ascii '\\' ≠ ascii '"'), if_true, if_pos mem]
    rfl
  · rename_i b u h₀ h₁ h₂ h₃
    obtain ⟨⟨rfl, rfl⟩, hex⟩ := ite_ne_right_iff.mp (ne_of_eq_of_ne escaped (by simp))
    have digits : (hex4 (h₀ :: h₁ :: h₂ :: h₃ :: rest)).isSome = true := by
      rw [show hex4 (h₀ :: h₁ :: h₂ :: h₃ :: rest) = hex4 [h₀, h₁, h₂, h₃] by simp [hex4]]
      exact Option.isSome_iff_ne_none.mpr fun none => by simp [none] at hex
    show scanString (fuel + 1) (ascii '\\' :: ascii 'u' :: h₀ :: h₁ :: h₂ :: h₃ :: rest) = _
    simp only [scanString, if_neg (by decide : ascii '\\' ≠ ascii '"'), if_true,
      if_neg (by decide : ascii 'u' ∉ "\"\\/bfnrt".data.map ascii), digits, and_self, List.take_succ_cons,
      List.drop_succ_cons, List.take_zero, List.drop_zero]
  · exact absurd escaped (by simp)

/-- `unquote` reads a piece as its character. -/
private theorem unquoteWith_escaped {piece : Bytes} {c : Char} (escaped : escapedChar? piece = some c)
    (rest : Bytes) (fuel : Nat) : unquoteWith (fuel + 1) (piece ++ rest) = c :: unquoteWith fuel rest := by
  unfold escapedChar? at escaped
  split at escaped
  · rename_i b
    obtain ⟨low, narrow, notQuote, notBackslash⟩ :=
      (ite_ne_right_iff.mp (ne_of_eq_of_ne escaped (by simp))).1
    rw [if_pos ⟨low, narrow, notQuote, notBackslash⟩] at escaped
    cases escaped
    show unquoteWith (fuel + 1) (b :: rest) = _
    simp only [unquoteWith, if_neg notBackslash, if_pos narrow]
  · rename_i b e
    obtain ⟨rfl, mem⟩ := (ite_ne_right_iff.mp (ne_of_eq_of_ne escaped (by simp))).1
    rw [if_pos ⟨rfl, mem⟩] at escaped
    cases escaped
    have notU : e ≠ ascii 'u' := by rintro rfl; exact absurd mem (by decide)
    show unquoteWith (fuel + 1) (ascii '\\' :: e :: rest) = _
    simp only [unquoteWith, if_true, if_neg notU]
  · rename_i b u h₀ h₁ h₂ h₃
    obtain ⟨⟨rfl, rfl⟩, -⟩ := ite_ne_right_iff.mp (ne_of_eq_of_ne escaped (by simp))
    rw [if_pos ⟨rfl, rfl⟩] at escaped
    have four : hex4 (h₀ :: h₁ :: h₂ :: h₃ :: rest) = hex4 [h₀, h₁, h₂, h₃] := by simp [hex4]
    show unquoteWith (fuel + 1) (ascii '\\' :: ascii 'u' :: h₀ :: h₁ :: h₂ :: h₃ :: rest) = _
    simp only [unquoteWith, if_true, four]
    cases hex : hex4 [h₀, h₁, h₂, h₃] with
    | none => simp [hex] at escaped
    | some unit =>
      rw [hex, Option.some_bind] at escaped
      split_ifs at escaped with surrogate
      cases escaped
      simp only [if_neg surrogate, List.drop_succ_cons, List.drop_zero]
  · exact absurd escaped (by simp)

/-- Every ASCII character's piece reads back as that character. -/
private theorem escapeASCII_escaped : ∀ n < 128, escapedChar? (escapeASCII (UInt8.ofNat n)) = some (Char.ofNat n) := by
  decide

/-- A character's piece is one the decoder reads as that character, or, for a character that
is neither ASCII nor a line or paragraph separator, its own UTF-8 bytes. -/
private theorem quoteChar_cases (c : Char) :
    escapedChar? (quoteChar c) = some c ∨ (quoteChar c = Utf8.encodeChar c ∧ 0x80 ≤ c.toNat) := by
  unfold quoteChar
  split_ifs with narrow separator
  · have := escapeASCII_escaped c.toNat narrow
    rw [Char.ofNat_toNat] at this
    exact .inl this
  · rcases separator with rfl | rfl <;> decide
  · exact .inr ⟨rfl, by omega⟩

/-- Bytes from `0x80` up are copied by the scanner one at a time. -/
private theorem scanString_wide {bytes : Bytes} (wide : ∀ b ∈ bytes, 0x80 ≤ b.toNat) (rest : Bytes) (fuel : Nat) :
    scanString (fuel + bytes.length) (bytes ++ rest) =
      (scanString fuel rest).map fun (raw, after) => (bytes ++ raw, after) := by
  induction bytes with
  | nil => simp
  | cons b more ih =>
    have high := wide b (List.mem_cons_self _ _)
    have notQuote : b ≠ ascii '"' := fun same => by rw [same] at high; revert high; decide
    have notBackslash : b ≠ ascii '\\' := fun same => by rw [same] at high; revert high; decide
    rw [List.length_cons, ← Nat.add_assoc, List.cons_append, scanString_plain notQuote notBackslash
      (by omega), ih fun b mem => wide b (List.mem_cons_of_mem _ mem), Option.map_map]
    rfl

theorem length_le_quoteChars (text : List Char) : text.length ≤ (quoteChars text).length := by
  induction text with
  | nil => exact le_rfl
  | cons c rest ih =>
    have := List.length_pos.mpr (quoteChar_ne_nil c)
    simp only [quoteChars, List.flatMap_cons, List.length_append, List.length_cons] at ih ⊢
    omega

/-- The scanner reads the text between the quotes up to the closing quote. -/
theorem scanString_quoteChars (text : List Char) (after : Bytes) (fuel : Nat)
    (enough : (quoteChars text).length < fuel) :
    scanString fuel (quoteChars text ++ ascii '"' :: after) = some (quoteChars text, after) := by
  induction text generalizing fuel with
  | nil =>
    obtain ⟨fuel, rfl⟩ : ∃ f, fuel = f + 1 := ⟨fuel - 1, by omega⟩
    simp [quoteChars, scanString]
  | cons c rest ih =>
    have split : quoteChars (c :: rest) = quoteChar c ++ quoteChars rest := List.flatMap_cons _ _ _
    rw [split, List.length_append] at enough
    rw [split, List.append_assoc]
    rcases quoteChar_cases c with escaped | ⟨bytes, wide⟩
    · have := List.length_pos.mpr (quoteChar_ne_nil c)
      obtain ⟨fuel, rfl⟩ : ∃ f, fuel = f + 1 := ⟨fuel - 1, by omega⟩
      rw [scanString_escaped escaped, ih fuel (by omega)]
      rfl
    · obtain ⟨-, -, -, -, high⟩ := Utf8.encodeChar_multi wide
      obtain ⟨fuel, rfl⟩ : ∃ f, fuel = f + (quoteChar c).length := ⟨fuel - (quoteChar c).length, by omega⟩
      rw [bytes] at enough ⊢
      rw [scanString_wide high, ih fuel (by omega)]
      rfl

/-- `unquote` reads the text between the quotes back as the characters. -/
theorem unquoteWith_quoteChars (text : List Char) (fuel : Nat) (enough : text.length ≤ fuel) :
    unquoteWith fuel (quoteChars text) = text := by
  induction text generalizing fuel with
  | nil => cases fuel <;> rfl
  | cons c rest ih =>
    obtain ⟨fuel, rfl⟩ : ∃ f, fuel = f + 1 := ⟨fuel - 1, by simp at enough; omega⟩
    have split : quoteChars (c :: rest) = quoteChar c ++ quoteChars rest := List.flatMap_cons _ _ _
    rw [split]
    rcases quoteChar_cases c with escaped | ⟨bytes, wide⟩
    · rw [unquoteWith_escaped escaped, ih fuel (by simp at enough; omega)]
    · obtain ⟨b₀, b₁, more, first, high⟩ := Utf8.encodeChar_multi wide
      obtain ⟨b₀', tail, split, read⟩ := Utf8.decodeRune_encodeChar c (quoteChars rest)
      rw [first, List.cons_append, List.cons.injEq] at split
      obtain ⟨rfl, rfl⟩ := split
      rw [first] at high
      have lead := high b₀ (List.mem_cons_self _ _)
      have notBackslash : b₀ ≠ ascii '\\' := fun same => by rw [same] at lead; revert lead; decide
      rw [bytes, first, List.cons_append]
      simp only [unquoteWith, if_neg notBackslash, if_neg (Nat.not_lt.mpr lead), read,
        ih fuel (by simp at enough; omega)]

private theorem length_le_encode (text : List Char) : text.length ≤ (Utf8.encode text).length := by
  induction text with
  | nil => exact le_rfl
  | cons c rest ih =>
    have : 0 < (Utf8.encodeChar c).length := by
      unfold Utf8.encodeChar
      dsimp only
      split_ifs <;> simp
    simp only [Utf8.encode, List.flatMap_cons, List.length_append, List.length_cons] at ih ⊢
    omega

/-- A valid UTF-8 string reads back as itself: `quote` writes the pieces of its characters
between quotes, the scanner takes them up to the closing quote, and `unquote` gives the
characters back. -/
theorem quote_readBack {s : Bytes} (valid : Utf8.Valid s) :
    quote s = ascii '"' :: quoteChars (Utf8.decode s) ++ [ascii '"'] ∧
      (∀ after fuel, (quoteChars (Utf8.decode s)).length < fuel →
        scanString fuel (quoteChars (Utf8.decode s) ++ ascii '"' :: after) =
          some (quoteChars (Utf8.decode s), after)) ∧
      Utf8.encode (unquote (quoteChars (Utf8.decode s))) = s := by
  refine ⟨?_, fun after fuel enough => scanString_quoteChars _ after fuel enough, ?_⟩
  · have enough := length_le_encode (Utf8.decode s)
    rw [Utf8.Valid] at valid
    rw [valid] at enough
    have written := quoteWith_encode (Utf8.decode s) s.length enough
    rw [valid] at written
    rw [quote, written]
  · rw [unquote, unquoteWith_quoteChars _ _ (length_le_quoteChars _)]
    exact valid

end Json

end EndpointAgent
