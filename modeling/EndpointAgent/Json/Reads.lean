import EndpointAgent.Json.Number
import EndpointAgent.Json.Quote

/-!
# What the parser reads

The parser takes back every value the encoder writes, whatever follows it in the text as
long as that closes a value. Space before a value is skipped, strings come back as their
characters, literals as themselves, and a number as its own text.
-/

set_option autoImplicit false

namespace EndpointAgent

namespace Json

/-! ## Space -/

theorem skipSpace_cons_space {b : UInt8} (space : isSpace b = true) (s : Bytes) :
    skipSpace (b :: s) = skipSpace s := by
  simp [skipSpace, List.dropWhile, space]

theorem skipSpace_of_head {b : UInt8} (notSpace : isSpace b = false) (s : Bytes) :
    skipSpace (b :: s) = b :: s := by
  simp [skipSpace, List.dropWhile, notSpace]

theorem skipSpace_spaces {spaces : Bytes} (blank : ∀ b ∈ spaces, isSpace b = true) (s : Bytes) :
    skipSpace (spaces ++ s) = skipSpace s := by
  simp only [skipSpace, List.dropWhile_append_of_pos blank]

theorem parseValue_space {b : UInt8} (space : isSpace b = true) (fuel depth : Nat) (s : Bytes) :
    parseValue fuel depth (b :: s) = parseValue fuel depth s := by
  cases fuel with
  | zero => simp [parseValue]
  | succ fuel => simp only [parseValue, skipSpace_cons_space space]

/-! ## Values -/

/-- `text` reads as `value` with `n` levels of nesting in it: at any fuel above its length and
any depth that leaves room for the nesting, followed by anything that closes a value. -/
def ReadsAt (n : Nat) (text : Bytes) (value : Syntax) : Prop :=
  ∀ fuel depth rest, text.length ≤ fuel → depth + n < maxNestingDepth → Closes rest →
    parseValue (fuel + 1) depth (text ++ rest) = .ok (value, rest)

theorem ReadsAt.mono {n : Nat} {text : Bytes} {value : Syntax} (reads : ReadsAt n text value) :
    ReadsAt (n + 1) text value :=
  fun fuel depth rest enough deep closes => reads fuel depth rest enough (by omega) closes

theorem quote_encode (text : List Char) :
    quote (Utf8.encode text) = ascii '"' :: quoteChars text ++ [ascii '"'] := by
  have written := (quote_readBack ((Utf8.valid_iff _).mpr ⟨text, rfl⟩)).1
  rwa [Utf8.decode_encode] at written

theorem unquote_quoteChars (text : List Char) : unquote (quoteChars text) = text :=
  unquoteWith_quoteChars _ _ (length_le_quoteChars _)

/-- A string reads back as its characters. -/
theorem reads_string (text : List Char) :
    ReadsAt 0 (quote (Utf8.encode text)) (.string (quoteChars text) text) := by
  intro fuel depth rest _ _ _
  simp only [quote_encode, List.cons_append, List.append_assoc, List.singleton_append]
  simp only [parseValue, skipSpace_of_head (by decide : isSpace (ascii '"') = false),
    if_neg (by decide : ¬(ascii '"' = ascii '[' ∨ ascii '"' = ascii '{')), if_pos rfl]
  rw [scanString_quoteChars _ _ _ (by simp)]
  simp [unquote_quoteChars]

theorem reads_bool (b : Bool) : ReadsAt 0 (asciiBytes (if b then "true" else "false")) (.bool b) := by
  intro fuel depth rest _ _ _
  cases b <;> rfl

/-- The first byte of a number is none of the bytes that start another kind of value. -/
theorem number_head {b : UInt8} (lead : b = ascii '-' ∨ isDigit b = true) :
    isSpace b = false ∧ ¬(b = ascii '[' ∨ b = ascii '{') ∧ b ≠ ascii '"' ∧ b ≠ ascii 't' ∧
      b ≠ ascii 'f' ∧ b ≠ ascii 'n' := by
  rcases lead with rfl | digit
  · decide
  · have range := (isDigit_iff b).mp digit
    have outside : ∀ c : Char, (ascii c).toNat < 48 ∨ 57 < (ascii c).toNat → b ≠ ascii c :=
      fun c out same => by rw [same] at range; omega
    refine ⟨?_, ?_, outside '"' (by decide), outside 't' (by decide), outside 'f' (by decide),
      outside 'n' (by decide)⟩
    · simp only [isSpace, Bool.or_eq_false_iff, decide_eq_false_iff_not]
      exact ⟨⟨⟨outside ' ' (by decide), outside '\t' (by decide)⟩, outside '\n' (by decide)⟩,
        outside '\r' (by decide)⟩
    · rintro (same | same) <;> exact outside _ (by decide) same

/-- A number's text reads back as itself. -/
theorem NumberText.reads {text : Bytes} (number : NumberText text) : ReadsAt 0 text (.number text) := by
  intro fuel depth rest _ _ closes
  obtain ⟨b, more, rfl, lead⟩ := number.head
  obtain ⟨notSpace, notOpen, notQuote, notT, notF, notN⟩ := number_head lead
  have scanned := number.scanNumber closes
  rw [List.cons_append] at scanned ⊢
  simp only [parseValue, skipSpace_of_head notSpace, if_neg notOpen, if_neg notQuote, if_neg notT,
    if_neg notF, if_neg notN, scanned]

/-- An integer as `strconv.FormatInt` writes it is a number's text. -/
theorem numberText_toString (n : Int) : NumberText (asciiBytes (toString n)) := by
  obtain ⟨shape, chars⟩ := toString_shape n
  exact ⟨_, _, _, _, shape, by rw [asciiBytes, chars]⟩

end Json

end EndpointAgent
