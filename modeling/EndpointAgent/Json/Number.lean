import EndpointAgent.Json.Decode
import EndpointAgent.Json.Float64.ReadBack

/-!
# Numbers read back

What `json.Unmarshal` makes of a number that `json.Marshal` wrote. Both number texts, the
`strconv.FormatInt` of an integer and `floatEncoder`'s `'f'` and `'e'` formatting of a
`float64`, have one shape: a minus sign or none, an integer part without leading zeros, an
optional fraction and an optional signed exponent. The scanner takes such a text whole when a
delimiter follows it, and `convertNumber` reads its decimal value back. A float reads back as
itself; an integer reads back as the float nearest to it, which prints as the integer did
when the integer is below `2^53`.
-/

set_option autoImplicit false

namespace EndpointAgent

namespace Json

/-! ## Bytes -/

/-- What follows a value inside the encoder's output: nothing, a comma, a closing bracket, or
the space an indenting encoder puts before one. -/
def Closes (rest : Bytes) : Prop :=
  ∀ b ∈ rest.head?, b = ascii ',' ∨ b = ascii ']' ∨ b = ascii '}' ∨ isSpace b = true

theorem isDigit_iff (b : UInt8) : isDigit b = true ↔ 48 ≤ b.toNat ∧ b.toNat ≤ 57 := by
  simp only [isDigit, Bool.and_eq_true, decide_eq_true_eq, UInt8.le_def, BitVec.le_def]
  rfl

private theorem char_isDigit_iff (c : Char) : c.isDigit = true ↔ 48 ≤ c.toNat ∧ c.toNat ≤ 57 := by
  simp only [Char.isDigit, Bool.and_eq_true, decide_eq_true_eq, Char.le_def, UInt32.le_def,
    BitVec.le_def]
  rfl

theorem ascii_toNat {c : Char} (small : c.toNat < 256) : (ascii c).toNat = c.toNat :=
  UInt8.toNat_ofNat_of_lt small

/-- The byte of a digit character is a digit byte. -/
theorem isDigit_ascii {c : Char} (digit : c.isDigit = true) : isDigit (ascii c) = true := by
  rw [char_isDigit_iff] at digit
  rw [isDigit_iff, ascii_toNat (by omega)]
  exact digit

/-- The byte of a digit character is none of the bytes the scanner stops at. -/
theorem ascii_ne_of_isDigit {c : Char} (digit : c.isDigit = true) {d : Char}
    (other : d.toNat < 48 ∨ (57 < d.toNat ∧ d.toNat < 256)) : ascii c ≠ ascii d := by
  rw [char_isDigit_iff] at digit
  intro same
  have := congrArg UInt8.toNat same
  rw [ascii_toNat (by omega), ascii_toNat (by omega)] at this
  omega

/-- The scanner and the encoder agree on the value of digits. -/
theorem digitsValue_map_ascii {digits : List Char} (allDigits : ∀ c ∈ digits, c.isDigit = true) :
    digitsValue (digits.map ascii) = Decimal.digitsValue digits := by
  unfold digitsValue Decimal.digitsValue
  rw [List.foldl_map]
  refine List.foldl_ext _ _ _ fun acc c mem => ?_
  have := (char_isDigit_iff c).mp (allDigits c mem)
  rw [ascii_toNat (by omega)]
  rfl

/-- `takeWhile` over a run that passes and then a byte that does not. -/
private theorem takeWhile_append_stop {p : UInt8 → Bool} {run rest : Bytes} (pass : ∀ b ∈ run, p b = true)
    (stop : ∀ b ∈ rest.head?, p b = false) : (run ++ rest).takeWhile p = run := by
  rw [List.takeWhile_append_of_pos pass]
  cases rest with
  | nil => simp
  | cons b more => simp [stop b rfl]

private theorem dropWhile_append_stop {p : UInt8 → Bool} {run rest : Bytes} (pass : ∀ b ∈ run, p b = true)
    (stop : ∀ b ∈ rest.head?, p b = false) : (run ++ rest).dropWhile p = rest := by
  rw [List.dropWhile_append_of_pos pass]
  cases rest with
  | nil => simp
  | cons b more => simp [stop b rfl]

/-- Two characters with the same byte are the same character. -/
private theorem ascii_inj {c d : Char} (small : c.toNat < 256) (small' : d.toNat < 256)
    (same : ascii c = ascii d) : c = d := by
  have := congrArg UInt8.toNat same
  rw [ascii_toNat small, ascii_toNat small'] at this
  rw [← Char.ofNat_toNat c, ← Char.ofNat_toNat d, this]

theorem Closes.head {rest : Bytes} (closes : Closes rest) :
    ∀ b ∈ rest.head?, isDigit b = false ∧ b ≠ ascii '.' ∧ b ≠ ascii 'e' ∧ b ≠ ascii 'E' := by
  intro b mem
  rcases closes b mem with rfl | rfl | rfl | space
  any_goals decide
  simp only [isSpace, Bool.or_eq_true, decide_eq_true_eq] at space
  rcases space with ((rfl | rfl) | rfl) | rfl <;> decide

/-- One or more digits, then a byte that is not one. -/
private theorem scanDigits_append {digits : List Char} (nonempty : digits ≠ [])
    (allDigits : ∀ c ∈ digits, c.isDigit = true) {rest : Bytes}
    (stop : ∀ b ∈ rest.head?, isDigit b = false) :
    scanDigits (digits.map ascii ++ rest) = some (digits.map ascii, rest) := by
  have pass : ∀ b ∈ digits.map ascii, isDigit b = true := by
    simp only [List.mem_map]
    rintro _ ⟨c, mem, rfl⟩
    exact isDigit_ascii (allDigits c mem)
  unfold scanDigits
  rw [takeWhile_append_stop pass stop, dropWhile_append_stop pass stop]
  cases digits with
  | nil => exact absurd rfl nonempty
  | cons c more => rfl

/-- `scanNumber` takes the optional minus sign, then the integer part, the fraction and the
exponent in turn. -/
private theorem scanNumber_of_parts {sign unsigned whole s₁ fraction s₂ exponent s₃ : Bytes}
    (signed : sign = [ascii '-'] ∨ sign = [] ∧ ∀ b ∈ unsigned.head?, b ≠ ascii '-')
    (readInt : scanInt unsigned = some (whole, s₁)) (readFraction : scanFraction s₁ = some (fraction, s₂))
    (readExponent : scanExponent s₂ = some (exponent, s₃)) :
    scanNumber (sign ++ unsigned) = some (sign ++ whole ++ fraction ++ exponent, s₃) := by
  cases unsigned with
  | nil => simp [Json.scanInt] at readInt
  | cons b more =>
    rcases signed with rfl | ⟨rfl, notMinus⟩
    · simp [Json.scanNumber, readInt, readFraction, readExponent]
    · simp [Json.scanNumber, notMinus b rfl, readInt, readFraction, readExponent]

private theorem map_ascii_ne {cs : List Char} (allDigits : ∀ c ∈ cs, c.isDigit = true) {d : Char}
    (other : d.toNat < 48 ∨ (57 < d.toNat ∧ d.toNat < 256)) : ∀ b ∈ cs.map ascii, b ≠ ascii d := by
  simp only [List.mem_map]
  rintro _ ⟨c, mem, rfl⟩
  exact ascii_ne_of_isDigit (allDigits c mem) other

/-- A minus sign in front changes only the sign `decimalOf` reads. -/
private theorem decimalOf_minus {unsigned : Bytes} (notMinus : unsigned.head? ≠ some (ascii '-')) :
    decimalOf (ascii '-' :: unsigned) = (true, (decimalOf unsigned).2) := by
  simp [Json.decimalOf, notMinus]

private theorem decimalOf_unsigned {unsigned : Bytes} (notMinus : unsigned.head? ≠ some (ascii '-')) :
    decimalOf unsigned = (false, (decimalOf unsigned).2) := by
  simp [Json.decimalOf, notMinus]

/-! ## The shape of a number's text -/

/-- The fraction part of a number's text: a point and the digits, or nothing. -/
def fractionPart (fraction : List Char) : List Char := if fraction = [] then [] else '.' :: fraction

/-- The exponent part of a number's text: `e`, the sign and the digits, or nothing. -/
def exponentPart : Option (Char × List Char) → List Char
  | none => []
  | some (sign, digits) => 'e' :: sign :: digits

/-- The power of ten an exponent part scales by. -/
def exponentValue : Option (Char × List Char) → Int
  | none => 0
  | some (sign, digits) =>
    if sign = '-' then -(Decimal.digitsValue digits : Int) else Decimal.digitsValue digits

/-- A number's text as `strconv` writes one: a minus sign or none, the integer part, then the
fraction and exponent parts. -/
def numberChars (negative : Bool) (whole fraction : List Char) (exponent : Option (Char × List Char)) :
    List Char :=
  (if negative then ['-'] else []) ++ whole ++ fractionPart fraction ++ exponentPart exponent

private theorem fractionPart_head (fraction : List Char) :
    ∀ b ∈ ((fractionPart fraction).map ascii).head?, decide (b ≠ ascii '.') = false := by
  unfold fractionPart
  split
  · rintro b ⟨⟩
  · rintro b ⟨⟩; decide

private theorem fractionPart_drop (fraction : List Char) :
    ((fractionPart fraction).map ascii).drop 1 = fraction.map ascii := by
  by_cases empty : fraction = [] <;> simp [fractionPart, empty]

private theorem exponentPart_head (exponent : Option (Char × List Char)) :
    ∀ b ∈ ((exponentPart exponent).map ascii).head?, decide (b ≠ ascii 'e' ∧ b ≠ ascii 'E') = false := by
  cases exponent with
  | none => rintro b ⟨⟩
  | some part => rintro b ⟨⟩; decide

/-- What the scanner asks of the parts of `numberChars`: digits throughout, no leading zero in
the integer part, a sign and at least one digit in the exponent. -/
structure NumberShape (whole fraction : List Char) (exponent : Option (Char × List Char)) : Prop where
  whole_digits : ∀ c ∈ whole, c.isDigit = true
  whole_lead : whole = ['0'] ∨ ∃ c rest, whole = c :: rest ∧ c ≠ '0'
  fraction_digits : ∀ c ∈ fraction, c.isDigit = true
  exponent_digits : ∀ sign digits, exponent = some (sign, digits) →
    (sign = '+' ∨ sign = '-') ∧ digits ≠ [] ∧ ∀ c ∈ digits, c.isDigit = true

section Scan

variable {whole fraction : List Char} {exponent : Option (Char × List Char)}
  (shape : NumberShape whole fraction exponent)
include shape

private theorem NumberShape.exponent_head {rest : Bytes} (closes : Closes rest) :
    ∀ b ∈ ((exponentPart exponent).map ascii ++ rest).head?,
      isDigit b = false ∧ b ≠ ascii '.' ∧ (b = ascii 'e' ∨ b ≠ ascii 'e' ∧ b ≠ ascii 'E') := by
  cases exponent with
  | none =>
    intro b mem
    obtain ⟨notDigit, notPoint, notE, notE'⟩ := closes.head b mem
    exact ⟨notDigit, notPoint, .inr ⟨notE, notE'⟩⟩
  | some part =>
    rintro b ⟨⟩
    exact ⟨by decide, by decide, .inl rfl⟩

theorem NumberShape.scanExponent {rest : Bytes} (closes : Closes rest) :
    scanExponent ((exponentPart exponent).map ascii ++ rest) = some ((exponentPart exponent).map ascii, rest) := by
  cases exponent with
  | none =>
    cases rest with
    | nil => rfl
    | cons b more =>
      obtain ⟨-, -, notE, notE'⟩ := closes.head b rfl
      simp [exponentPart, Json.scanExponent, notE, notE']
  | some part =>
    obtain ⟨sign, digits⟩ := part
    obtain ⟨signed, nonempty, allDigits⟩ := shape.exponent_digits sign digits rfl
    have signByte : ascii sign = ascii '+' ∨ ascii sign = ascii '-' := by
      rcases signed with rfl | rfl <;> simp
    simp only [exponentPart, List.map_cons, List.cons_append, Json.scanExponent, if_pos (Or.inl rfl),
      if_pos signByte, scanDigits_append nonempty allDigits fun b mem => (closes.head b mem).1]
    rfl

theorem NumberShape.scanFraction {rest : Bytes} (closes : Closes rest) :
    scanFraction ((fractionPart fraction).map ascii ++ ((exponentPart exponent).map ascii ++ rest)) =
      some ((fractionPart fraction).map ascii, (exponentPart exponent).map ascii ++ rest) := by
  unfold fractionPart
  split
  · cases h : (exponentPart exponent).map ascii ++ rest with
    | nil => rfl
    | cons b more =>
      have notPoint := (shape.exponent_head closes b (by rw [h]; rfl)).2.1
      simp [Json.scanFraction, notPoint]
  · rename_i nonempty
    simp only [List.map_cons, List.cons_append, Json.scanFraction, if_pos rfl,
      scanDigits_append nonempty shape.fraction_digits fun b mem => (shape.exponent_head closes b mem).1]
    rfl

theorem NumberShape.scanInt {rest : Bytes} (stop : ∀ b ∈ rest.head?, isDigit b = false) :
    scanInt (whole.map ascii ++ rest) = some (whole.map ascii, rest) := by
  rcases shape.whole_lead with rfl | ⟨c, tail, rfl, lead⟩
  · simp [Json.scanInt]
  · have digit := shape.whole_digits c (List.mem_cons_self _ _)
    have small := (char_isDigit_iff c).mp digit
    have notZero : ascii c ≠ ascii '0' := fun same => lead (ascii_inj (by omega) (by decide) same)
    have pass : ∀ b ∈ tail.map ascii, isDigit b = true := by
      simp only [List.mem_map]
      rintro _ ⟨d, mem, rfl⟩
      exact isDigit_ascii (shape.whole_digits d (List.mem_cons_of_mem _ mem))
    simp only [List.map_cons, List.cons_append, Json.scanInt, if_neg notZero, isDigit_ascii digit,
      if_true, takeWhile_append_stop pass stop, dropWhile_append_stop pass stop]

theorem NumberShape.whole_head : ∃ c tail, whole = c :: tail ∧ c.isDigit = true := by
  rcases shape.whole_lead with first | ⟨c, tail, first, -⟩ <;>
    exact ⟨_, _, first, shape.whole_digits _ (by rw [first]; exact List.mem_cons_self _ _)⟩

theorem NumberShape.scanNumber (negative : Bool) {rest : Bytes} (closes : Closes rest) :
    scanNumber ((numberChars negative whole fraction exponent).map ascii ++ rest) =
      some ((numberChars negative whole fraction exponent).map ascii, rest) := by
  have afterWhole : ∀ b ∈ ((fractionPart fraction).map ascii ++
      ((exponentPart exponent).map ascii ++ rest)).head?, isDigit b = false := by
    unfold fractionPart
    split
    · exact fun b mem => (shape.exponent_head closes b mem).1
    · rintro b ⟨⟩
      rfl
  have signed : (if negative then ['-'] else []).map ascii = [ascii '-'] ∨
      (if negative then ['-'] else []).map ascii = [] ∧
        ∀ b ∈ ((whole.map ascii) ++ ((fractionPart fraction).map ascii ++
          ((exponentPart exponent).map ascii ++ rest))).head?, b ≠ ascii '-' := by
    cases negative
    · obtain ⟨c, tail, first, digit⟩ := shape.whole_head
      refine .inr ⟨rfl, ?_⟩
      rw [first]
      rintro b ⟨⟩
      exact ascii_ne_of_isDigit digit (by decide)
    · exact .inl rfl
  have := scanNumber_of_parts signed (shape.scanInt afterWhole) (shape.scanFraction closes)
    (shape.scanExponent closes)
  simpa only [numberChars, List.map_append, List.append_assoc] using this

/-- No byte of the integer or fraction part is an exponent mark. -/
private theorem NumberShape.mantissa_notExponent :
    ∀ b ∈ (whole ++ fractionPart fraction).map ascii, decide (b ≠ ascii 'e' ∧ b ≠ ascii 'E') = true := by
  have digitsNotE : ∀ cs : List Char, (∀ c ∈ cs, c.isDigit = true) →
      ∀ b ∈ cs.map ascii, decide (b ≠ ascii 'e' ∧ b ≠ ascii 'E') = true := fun cs digits b mem =>
    decide_eq_true ⟨map_ascii_ne digits (by decide) b mem, map_ascii_ne digits (by decide) b mem⟩
  rw [List.map_append, List.forall_mem_append]
  refine ⟨digitsNotE _ shape.whole_digits, ?_⟩
  unfold fractionPart
  split
  · simp
  · rw [List.map_cons, List.forall_mem_cons]
    exact ⟨by decide, digitsNotE _ shape.fraction_digits⟩

theorem NumberShape.decimalOf (negative : Bool) :
    decimalOf ((numberChars negative whole fraction exponent).map ascii) =
      (negative, Decimal.digitsValue (whole ++ fraction), exponentValue exponent - fraction.length) := by
  obtain ⟨c, tail, first, digit⟩ := shape.whole_head
  have mantissaNotE := shape.mantissa_notExponent
  have wholeNotPoint : ∀ b ∈ whole.map ascii, decide (b ≠ ascii '.') = true := fun b mem =>
    decide_eq_true (map_ascii_ne shape.whole_digits (by decide) b mem)
  have mantissa := takeWhile_append_stop mantissaNotE (exponentPart_head exponent)
  have exponentBytes := dropWhile_append_stop mantissaNotE (exponentPart_head exponent)
  have wholeBytes := takeWhile_append_stop wholeNotPoint (fractionPart_head fraction)
  have fractionBytes := dropWhile_append_stop wholeNotPoint (fractionPart_head fraction)
  simp only [List.map_append, List.append_assoc] at mantissa exponentBytes
  have notMinus : ((numberChars false whole fraction exponent).map ascii).head? ≠ some (ascii '-') := by
    simp only [numberChars, Bool.false_eq_true, if_false, List.nil_append, first, List.cons_append,
      List.map_cons, List.head?_cons, ne_eq, Option.some.injEq]
    exact ascii_ne_of_isDigit digit (by decide)
  have value : (Json.decimalOf ((numberChars false whole fraction exponent).map ascii)).2 =
      (Decimal.digitsValue (whole ++ fraction), exponentValue exponent - fraction.length) := by
    have unsigned := notMinus
    simp only [numberChars, Bool.false_eq_true, if_false, List.nil_append, List.map_append,
      List.append_assoc] at unsigned ⊢
    simp only [Json.decimalOf, if_neg unsigned, mantissa, exponentBytes, wholeBytes, fractionBytes,
      fractionPart_drop]
    rw [← List.map_append, List.length_map,
      digitsValue_map_ascii (List.forall_mem_append.mpr ⟨shape.whole_digits, shape.fraction_digits⟩)]
    congr
    cases exponent with
    | none => rfl
    | some part =>
      obtain ⟨sign, digits⟩ := part
      obtain ⟨signed, -, allDigits⟩ := shape.exponent_digits sign digits rfl
      rcases signed with rfl | rfl <;>
        simp [exponentPart, exponentValue, digitsValue_map_ascii allDigits, (by decide : ascii '+' ≠ ascii '-')]
  cases negative
  · rw [decimalOf_unsigned notMinus, value]
  · rw [show numberChars true whole fraction exponent = '-' :: numberChars false whole fraction exponent
      from rfl, List.map_cons, decimalOf_minus notMinus, value]

end Scan

end Json

/-! ## The texts of floats -/

namespace Float64

open Json

/-- `dropExponentZero` either leaves the text as it is or drops the zero of a final `e-0d`. -/
private theorem dropExponentZero_cases (text : List Char) :
    dropExponentZero text = text ∨
      ∃ before d, text = before ++ ['e', '-', '0', d] ∧ dropExponentZero text = before ++ ['e', '-', d] := by
  unfold dropExponentZero
  split
  · rename_i d before reversed
    refine .inr ⟨before.reverse, d, ?_, by simp⟩
    rw [← List.reverse_reverse text, reversed]
    simp
  · exact .inl rfl

private theorem dropExponentZero_exponent (front : List Char) {sign : Char} (signed : sign = '+' ∨ sign = '-')
    {digits : List Char} (nonempty : digits ≠ []) (allDigits : ∀ c ∈ digits, c.isDigit = true) :
    ∃ digits', dropExponentZero (front ++ 'e' :: sign :: digits) = front ++ 'e' :: sign :: digits' ∧
      digits' ≠ [] ∧ (∀ c ∈ digits', c.isDigit = true) ∧
      Decimal.digitsValue digits' = Decimal.digitsValue digits := by
  rcases dropExponentZero_cases (front ++ 'e' :: sign :: digits) with same | ⟨before, d, split, dropped⟩
  · exact ⟨digits, same, nonempty, allDigits, rfl⟩
  · obtain ⟨r, rfl⟩ : ∃ r, digits = r.reverse := ⟨digits.reverse, by simp⟩
    have reversed := congrArg List.reverse split
    simp only [List.reverse_append, List.reverse_cons, List.reverse_reverse, List.append_assoc,
      List.singleton_append, List.cons_append, List.nil_append, List.reverse_nil] at reversed
    rcases r with _ | ⟨x, _ | ⟨y, _ | ⟨z, zs⟩⟩⟩
    · exact absurd rfl nonempty
    · simp only [List.cons_append, List.nil_append, List.cons.injEq] at reversed
      rcases signed with rfl | rfl <;> simp at reversed
    · simp only [List.cons_append, List.nil_append, List.cons.injEq] at reversed
      obtain ⟨rfl, rfl, rfl, -, rest⟩ := reversed
      have : front = before := by simpa using congrArg List.reverse rest
      subst this
      refine ⟨[x], dropped, by simp, fun c mem => allDigits c (by simp_all), ?_⟩
      simp [Decimal.digitsValue_cons, Decimal.digitValue]
    · simp only [List.cons_append, List.cons.injEq] at reversed
      have := allDigits z (by simp)
      rw [reversed.2.2.1] at this
      exact absurd this (by decide)

private theorem digitChars_facts (d : Nat) : (∀ c ∈ digitChars d, c.isDigit = true) ∧
    Decimal.digitsValue (digitChars d) = d ∧
    (0 < d → ∃ c rest, digitChars d = c :: rest ∧ c ≠ '0') := by
  unfold digitChars
  split
  · subst d; simp [Decimal.digitsValue]
  · rename_i nonzero
    refine ⟨Decimal.isDigit_of_mem_toDigits d, Decimal.digitsValue_toDigits d, fun pos => ?_⟩
    obtain ⟨c, rest, digits, lead, -⟩ := Decimal.toDigits_head pos
    exact ⟨c, rest, digits, lead⟩

/-- `fmtF` writes the number shape, and the decimal it writes has the value `d * 10 ^ k`. -/
private theorem fmtF_shape (negative : Bool) (d : Nat) (k : Int) (zeroExp : d = 0 → k = 0) :
    ∃ whole fraction, NumberShape whole fraction none ∧
      fmtF negative (digitChars d) ((digitChars d).length + k) = numberChars negative whole fraction none ∧
      (Decimal.digitsValue (whole ++ fraction) : ℚ) * 10 ^ (exponentValue none - fraction.length) =
        d * 10 ^ k := by
  obtain ⟨allDigits, value, lead⟩ := digitChars_facts d
  have zeroLength : d = 0 → (digitChars d).length = 0 := by rintro rfl; rfl
  generalize digitChars d = digits at allDigits value lead zeroLength ⊢
  generalize dpDef : (digits.length : Int) + k = dp
  have zeroDigit : ('0').isDigit = true := rfl
  refine ⟨if 0 < dp then digits.take dp.toNat ++ List.replicate (dp.toNat - digits.length) '0' else ['0'],
    List.replicate (-dp).toNat '0' ++ digits.drop dp.toNat, ⟨?_, ?_, ?_, by simp⟩, ?_, ?_⟩
  · split <;> simp only [List.mem_append, List.mem_replicate, List.mem_singleton] <;>
      rintro c (mem | ⟨-, rfl⟩) <;> first | exact zeroDigit | exact allDigits c (List.mem_of_mem_take mem)
  · split
    · rename_i pos
      have nonzero : 0 < d := by
        refine Nat.pos_of_ne_zero fun zero => ?_
        have := zeroExp zero
        have := zeroLength zero
        omega
      obtain ⟨c, rest, first, ne⟩ := lead nonzero
      rw [first]
      refine .inr ⟨c, rest.take (dp.toNat - 1) ++ List.replicate (dp.toNat - (c :: rest).length) '0', ?_, ne⟩
      rw [show dp.toNat = (dp.toNat - 1) + 1 by omega, List.take_succ_cons, List.cons_append,
        Nat.add_sub_cancel]
    · exact .inl rfl
  · simp only [List.mem_append, List.mem_replicate]
    rintro c (⟨-, rfl⟩ | mem)
    · exact zeroDigit
    · exact allDigits c (List.mem_of_mem_drop mem)
  · simp only [fmtF, numberChars, fractionPart, exponentPart, List.append_nil]
  · simp only [exponentValue, zero_sub]
    by_cases pos : 0 < dp
    · rw [if_pos pos, show (-dp).toNat = 0 by omega, List.replicate_zero, List.nil_append]
      by_cases fits : dp.toNat ≤ digits.length
      · rw [show dp.toNat - digits.length = 0 by omega, List.replicate_zero, List.append_nil,
          List.take_append_drop, value, List.length_drop]
        rw [show -((digits.length - dp.toNat : ℕ) : ℤ) = k by omega]
      · rw [List.take_of_length_le (by omega), List.drop_of_length_le (by omega), List.append_nil,
          Decimal.digitsValue_append, Decimal.digitsValue_replicate_zero, value, List.length_replicate,
          List.length_nil, Nat.add_zero, Nat.cast_zero, neg_zero, zpow_zero, mul_one]
        push_cast
        rw [← zpow_natCast, show ((dp.toNat - digits.length : ℕ) : ℤ) = k by omega]
    · rw [if_neg pos, show dp.toNat = 0 by omega, List.drop_zero, List.singleton_append,
        Decimal.digitsValue_cons, Decimal.digitsValue_append, Decimal.digitsValue_replicate_zero, value, List.length_append, List.length_replicate]
      simp only [Decimal.digitValue, Nat.sub_self, zero_mul, zero_add]
      rw [show -(((-dp).toNat + digits.length : ℕ) : ℤ) = k by omega]

private theorem exponentChars_digits (exp : Int) :
    ∃ digits, exponentChars exp = (if exp < 0 then '-' else '+') :: digits ∧ digits ≠ [] ∧
      (∀ c ∈ digits, c.isDigit = true) ∧ Decimal.digitsValue digits = exp.natAbs := by
  refine ⟨_, rfl, ?_⟩
  split
  · rename_i small
    have digit : ∀ n < 10, (Nat.digitChar n).isDigit = true ∧
        Decimal.digitsValue ['0', Nat.digitChar n] = n := by decide
    obtain ⟨isDigit, value⟩ := digit _ small
    refine ⟨by simp, ?_, value⟩
    simp only [List.mem_cons, List.mem_singleton, List.not_mem_nil, or_false]
    rintro c (rfl | rfl)
    · rfl
    · exact isDigit
  · rename_i big
    obtain ⟨c, rest, first, -, -⟩ := @Decimal.toDigits_head exp.natAbs (by omega)
    exact ⟨by simp [first], Decimal.isDigit_of_mem_toDigits _, Decimal.digitsValue_toDigits _⟩

/-- `fmtE` and the clean-up after it write the number shape, with the digits `d` and the
exponent `k` read back as they were given. -/
private theorem fmtE_shape (negative : Bool) {d : Nat} (pos : 0 < d) (k : Int) :
    ∃ whole fraction exponent, NumberShape whole fraction exponent ∧
      dropExponentZero (fmtE negative (digitChars d) ((digitChars d).length + k)) =
        numberChars negative whole fraction exponent ∧
      Decimal.digitsValue (whole ++ fraction) = d ∧ exponentValue exponent - fraction.length = k := by
  obtain ⟨allDigits, value, lead⟩ := digitChars_facts d
  obtain ⟨c, rest, first, lead⟩ := lead pos
  rw [first] at allDigits value ⊢
  obtain ⟨digits, chars, nonempty, expDigits, expValue⟩ :=
    exponentChars_digits ((c :: rest).length + k - 1)
  have signed : (if ((c :: rest).length + k - 1 : Int) < 0 then '-' else '+') = '+' ∨
      (if ((c :: rest).length + k - 1 : Int) < 0 then '-' else '+') = '-' := by
    split <;> simp
  obtain ⟨digits', dropped, nonempty', expDigits', expValue'⟩ :=
    dropExponentZero_exponent ((if negative then ['-'] else []) ++ c :: fractionPart rest) signed
      nonempty expDigits
  have text : fmtE negative (c :: rest) ((c :: rest).length + k) =
      ((if negative then ['-'] else []) ++ c :: fractionPart rest) ++
        'e' :: exponentChars ((c :: rest).length + k - 1) := by
    simp [fmtE, fractionPart, List.length_eq_zero]
  refine ⟨[c], rest, some (if ((c :: rest).length + k - 1 : Int) < 0 then '-' else '+', digits'),
    ⟨fun x mem => allDigits x (by rw [List.mem_singleton.mp mem]; exact List.mem_cons_self _ _), .inr ⟨c, [], rfl, lead⟩,
      fun x mem => allDigits x (List.mem_cons_of_mem _ mem), fun _ _ same => ?_⟩, ?_, value, ?_⟩
  · obtain ⟨rfl, rfl⟩ := Prod.mk.inj (Option.some.inj same)
    exact ⟨signed, nonempty', expDigits'⟩
  · rw [text, chars, dropped]
    simp [numberChars, exponentPart]
  · simp only [exponentValue, expValue', expValue, List.length_cons]
    by_cases negExp : ((rest.length + 1 : Nat) + k - 1 : Int) < 0
    · simp only [if_pos negExp, if_true]
      omega
    · simp only [if_neg negExp, (by decide : ('+' : Char) ≠ '-'), if_false]
      omega

/-- The text `floatEncoder` writes for a float has the number shape, and the decimal it spells
reads back as that float. -/
private theorem jsonText_shape {f : Float64} {text : List Char} (written : f.jsonText = .ok text) :
    ∃ whole fraction exponent, NumberShape whole fraction exponent ∧
      text = numberChars f.negative whole fraction exponent ∧
      ofDecimal f.negative (Decimal.digitsValue (whole ++ fraction))
        (exponentValue exponent - fraction.length) = some f := by
  unfold jsonText at written
  split at written
  · cases written
  rename_i finite
  rw [not_not] at finite
  have readBack : ofDecimal f.negative f.shortest.1 f.shortest.2 = some f := by
    by_cases isZero : f.mant = 0
    · rw [shortest, if_pos isZero, eq_zero_of_mant isZero]
      rfl
    · exact (ofDecimal_shortest f.negative finite isZero).2
  have zeroExp : f.shortest.1 = 0 → f.shortest.2 = 0 := fun isZero => by
    by_cases zeroMant : f.mant = 0
    · rw [shortest, if_pos zeroMant]
    · exact absurd isZero (ofDecimal_shortest false finite zeroMant).1.ne'
  have pos : f.mant ≠ 0 → 0 < f.shortest.1 := fun nonzero => (ofDecimal_shortest false finite nonzero).1
  generalize f.shortest = decimal at written readBack zeroExp pos
  obtain ⟨d, k⟩ := decimal
  dsimp only at written readBack zeroExp pos
  split at written
  · rename_i large
    obtain ⟨whole, fraction, exponent, shape, chars, value, scale⟩ := fmtE_shape f.negative (pos large.1) k
    refine ⟨whole, fraction, exponent, shape, ?_, by rw [value, scale]; exact readBack⟩
    rw [← chars]
    exact (Except.ok.inj written).symm
  · obtain ⟨whole, fraction, shape, chars, value⟩ := fmtF_shape f.negative d k zeroExp
    refine ⟨whole, fraction, none, shape, ?_, by rw [ofDecimal_value_congr f.negative value]; exact readBack⟩
    rw [← chars]
    exact (Except.ok.inj written).symm

end Float64

/-! ## Numbers read back -/

namespace Json

theorem toString_shape (n : Int) : NumberShape (Nat.toDigits 10 n.natAbs) [] none ∧
    (toString n).data = numberChars (decide (n < 0)) (Nat.toDigits 10 n.natAbs) [] none := by
  refine ⟨⟨Decimal.isDigit_of_mem_toDigits _, ?_, by simp, by simp⟩, ?_⟩
  · rcases Nat.eq_zero_or_pos n.natAbs with isZero | pos
    · exact .inl (by rw [isZero]; rfl)
    · obtain ⟨c, rest, first, lead, -⟩ := Decimal.toDigits_head pos
      exact .inr ⟨c, rest, first, lead⟩
  · rw [Decimal.toString_int_data]
    cases n <;> simp [numberChars, fractionPart, exponentPart, Int.negSucc_lt_zero]

/-- The bytes of a number's text as the encoder writes one. -/
def NumberText (text : Bytes) : Prop :=
  ∃ negative whole fraction exponent, NumberShape whole fraction exponent ∧
    text = (numberChars negative whole fraction exponent).map ascii

theorem NumberText.scanNumber {text : Bytes} (number : NumberText text) {rest : Bytes} (closes : Closes rest) :
    scanNumber (text ++ rest) = some (text, rest) := by
  obtain ⟨negative, whole, fraction, exponent, shape, rfl⟩ := number
  exact shape.scanNumber negative closes

/-- A number's text starts with a minus sign or a digit. -/
theorem NumberText.head {text : Bytes} (number : NumberText text) :
    ∃ b more, text = b :: more ∧ (b = ascii '-' ∨ isDigit b = true) := by
  obtain ⟨negative, whole, fraction, exponent, shape, rfl⟩ := number
  obtain ⟨c, tail, first, digit⟩ := shape.whole_head
  cases negative
  · exact ⟨ascii c, (tail ++ fractionPart fraction ++ exponentPart exponent).map ascii,
      by simp [numberChars, first], .inr (isDigit_ascii digit)⟩
  · exact ⟨ascii '-', (numberChars false whole fraction exponent).map ascii, by simp [numberChars],
      .inl rfl⟩

private theorem convertNumber_eq_ok {text : Bytes} {negative : Bool} {digits : Nat} {exp10 : Int}
    (decimal : decimalOf text = (negative, digits, exp10)) {f : Float64}
    (read : Float64.ofDecimal negative digits exp10 = some f) : convertNumber text = .ok f := by
  simp only [convertNumber, decimal, read]

/-- A float's text reads back as the float. -/
theorem float_readBack {f : Float64} {text : Bytes} (encoded : encode (.float f) = .ok text) :
    NumberText text ∧ convertNumber text = .ok f := by
  obtain ⟨chars, written, rfl⟩ := (except_map_eq_ok _ _ _).mp encoded
  obtain ⟨whole, fraction, exponent, shape, rfl, read⟩ := Float64.jsonText_shape written
  exact ⟨⟨_, _, _, _, shape, rfl⟩, convertNumber_eq_ok (shape.decimalOf f.negative) read⟩

/-- An integer below `2^53` reads back as a float that prints as the integer did. -/
theorem int_readBack (n : Int) (small : n.natAbs < 2 ^ 53) :
    NumberText (asciiBytes (toString n)) ∧
      ∃ g, convertNumber (asciiBytes (toString n)) = .ok g ∧ encode (.float g) = .ok (asciiBytes (toString n)) := by
  obtain ⟨shape, chars⟩ := toString_shape n
  obtain ⟨g, read, written⟩ := Float64.jsonText_whole n small
  have decimal := shape.decimalOf (decide (n < 0))
  simp only [List.append_nil, exponentValue, List.length_nil, Nat.cast_zero, sub_zero,
    Decimal.digitsValue_toDigits] at decimal
  refine ⟨⟨_, _, _, _, shape, by rw [asciiBytes, chars]⟩, g, ?_, ?_⟩
  · rw [asciiBytes, chars]
    exact convertNumber_eq_ok decimal read
  · simp only [encode, written, asciiBytes]
    rfl

end Json

end EndpointAgent
