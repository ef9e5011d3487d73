import EndpointAgent.Json.Time
import EndpointAgent.Decimal

/-!
# Timestamps read back

`Time.UnmarshalJSON` of what `Time.MarshalJSON` wrote. Every field of the text has a fixed
width, so `parseRFC3339` finds each where `appendFormatRFC3339` put it and reads it back; the
fraction comes back from the digits left after the trailing zeros are dropped. The zone is
written in whole minutes, so an offset comes back rounded toward zero to a whole minute, and
the text it is written as again is the same unless the offset was below a minute, which is
written as `+00:00` and read back as zero, written `Z`.
-/

set_option autoImplicit false

namespace EndpointAgent

namespace Time

/-! ## Fixed-width digits -/

/-- The last `width` decimal digits of `x`, most significant first. -/
def padDigits : Nat → Nat → List Char
  | 0, _ => []
  | width + 1, x => padDigits width (x / 10) ++ [Nat.digitChar (x % 10)]

private theorem toDigits_of_lt {x : Nat} (small : x < 10) : Nat.toDigits 10 x = [Nat.digitChar x] := by
  unfold Nat.toDigits Nat.toDigitsCore
  simp [Nat.div_eq_of_lt small, Nat.mod_eq_of_lt small]

private theorem appendInt_ofNat (x width : Nat) :
    appendInt x width = List.replicate (width - (Nat.toDigits 10 x).length) '0' ++ Nat.toDigits 10 x := by
  simp [appendInt]

private theorem padDigits_zero : ∀ width, padDigits width 0 = List.replicate width '0'
  | 0 => rfl
  | width + 1 => by
    rw [padDigits, padDigits_zero width, List.replicate_succ']
    rfl

/-- `appendInt` of a number of at most `width` digits writes its last `width` digits. -/
private theorem appendInt_eq_padDigits : ∀ (width x : Nat), x < 10 ^ (width + 1) →
    appendInt x (width + 1) = padDigits (width + 1) x
  | 0, x, small => by
    have small : x < 10 := by simpa using small
    rw [appendInt_ofNat, toDigits_of_lt small]
    simp [padDigits, Nat.mod_eq_of_lt small]
  | width + 1, x, small => by
    by_cases tiny : x < 10
    · rw [appendInt_ofNat, toDigits_of_lt tiny, padDigits, Nat.div_eq_of_lt tiny, Nat.mod_eq_of_lt tiny,
        padDigits_zero]
      simp
    · have split : x = 10 * (x / 10) + x % 10 := (Nat.div_add_mod x 10).symm
      have pushed := Decimal.toDigits_push (q := x / 10) (by omega) (Nat.mod_lt x (by decide))
      rw [← split] at pushed
      have shorter := appendInt_eq_padDigits width (x / 10) (by rw [pow_succ] at small; omega)
      rw [appendInt_ofNat] at shorter ⊢
      rw [pushed, padDigits, ← shorter, List.length_append, List.length_singleton, ← List.append_assoc,
        Nat.add_sub_add_right]

private theorem length_padDigits : ∀ width x, (padDigits width x).length = width
  | 0, _ => rfl
  | width + 1, x => by simp [padDigits, length_padDigits width]

private theorem padDigits_digits : ∀ width x, ∀ c ∈ padDigits width x, ∃ k < 10, c = Nat.digitChar k
  | 0, _ => by simp [padDigits]
  | width + 1, x => by
    simp only [padDigits, List.mem_append, List.mem_singleton]
    rintro c (earlier | rfl)
    · exact padDigits_digits width (x / 10) c earlier
    · exact ⟨x % 10, Nat.mod_lt x (by decide), rfl⟩

theorem digitValue_digitChar : ∀ k < 10, Decimal.digitValue (Nat.digitChar k) = k := by
  decide

private theorem digitsValue_padDigits : ∀ width x, Decimal.digitsValue (padDigits width x) = x % 10 ^ width
  | 0, x => by simp [padDigits, Decimal.digitsValue, Nat.mod_one]
  | width + 1, x => by
    rw [padDigits, Decimal.digitsValue_append, digitsValue_padDigits width, Decimal.digitsValue_cons,
      digitValue_digitChar _ (Nat.mod_lt x (by decide))]
    simp only [List.length_nil, pow_zero, mul_one, Decimal.digitsValue, List.foldl_nil, add_zero,
      List.length_singleton, pow_one]
    rw [pow_succ, mul_comm (10 ^ width) 10, Nat.mod_mul]
    ring

/-! ## Reading digits -/

private theorem digitValue?_digitChar : ∀ k < 10,
    digitValue? (ascii (Nat.digitChar k)) = some (Decimal.digitValue (Nat.digitChar k)) := by
  decide

private theorem mapM_digitValue? {cs : List Char} (digits : ∀ c ∈ cs, ∃ k < 10, c = Nat.digitChar k) :
    (cs.map ascii).mapM digitValue? = some (cs.map Decimal.digitValue) := by
  induction cs with
  | nil => rfl
  | cons c rest ih =>
    obtain ⟨k, small, rfl⟩ := digits c (List.mem_cons_self _ _)
    rw [List.map_cons, List.mapM_cons, digitValue?_digitChar k small,
      ih fun c mem => digits c (List.mem_cons_of_mem _ mem)]
    rfl

/-- `parseUint` reads a number's last `width` digits back, when it has no more. -/
private theorem parseUint_padDigits {width x lo hi : Nat} (small : x < 10 ^ width) (low : lo ≤ x) (high : x ≤ hi) :
    parseUint ((padDigits width x).map ascii) lo hi = some x := by
  have value := digitsValue_padDigits width x
  rw [Nat.mod_eq_of_lt small, Decimal.digitsValue, ← List.foldl_map] at value
  simp only [parseUint, mapM_digitValue? (padDigits_digits width x), value, low, high, and_self, if_true]

private theorem padDigits_two (x : Nat) : padDigits 2 x = [Nat.digitChar (x / 10 % 10), Nat.digitChar (x % 10)] := by
  simp [padDigits]

private theorem parseUint_two {x lo hi : Nat} (small : x < 100) (low : lo ≤ x) (high : x ≤ hi) :
    parseUint [ascii (Nat.digitChar (x / 10 % 10)), ascii (Nat.digitChar (x % 10))] lo hi = some x := by
  simpa [padDigits] using parseUint_padDigits (show x < 10 ^ 2 by omega) low high

private theorem filterMap_digitValue? {cs : List Char} (digits : ∀ c ∈ cs, ∃ k < 10, c = Nat.digitChar k) :
    (cs.map ascii).filterMap digitValue? = cs.map Decimal.digitValue := by
  induction cs with
  | nil => rfl
  | cons c rest ih =>
    obtain ⟨k, small, rfl⟩ := digits c (List.mem_cons_self _ _)
    rw [List.map_cons, List.filterMap_cons, digitValue?_digitChar k small,
      ih fun c mem => digits c (List.mem_cons_of_mem _ mem)]
    rfl

/-! ## The fraction -/

/-- What `appendNano` writes of a nanosecond count that is not zero: a point, then its nine
digits without the trailing zeros, which scaled back give the count. -/
private theorem appendNano_digits {nanosecond : Nat} (small : nanosecond < 10 ^ 9) (nonzero : nanosecond ≠ 0) :
    ∃ kept, appendNano nanosecond = '.' :: kept ∧ kept ≠ [] ∧ kept.length ≤ 9 ∧
      (∀ c ∈ kept, ∃ k < 10, c = Nat.digitChar k) ∧
      Decimal.digitsValue kept * 10 ^ (9 - kept.length) = nanosecond := by
  have padded : appendInt nanosecond 9 = padDigits 9 nanosecond := appendInt_eq_padDigits 8 nanosecond small
  set digits := padDigits 9 nanosecond with digits_def
  have split : digits = (digits.reverse.dropWhile (· = '0')).reverse ++
      (digits.reverse.takeWhile (· = '0')).reverse := by
    rw [← List.reverse_append, List.takeWhile_append_dropWhile, List.reverse_reverse]
  set kept := (digits.reverse.dropWhile (· = '0')).reverse
  set zeros := (digits.reverse.takeWhile (· = '0')).reverse
  have allZero : zeros = List.replicate zeros.length '0' :=
    List.eq_replicate_iff.mpr ⟨rfl, fun c mem => by
      simpa using List.mem_takeWhile_imp (List.mem_reverse.mp mem)⟩
  have value := digitsValue_padDigits 9 nanosecond
  rw [Nat.mod_eq_of_lt small, ← digits_def, split, Decimal.digitsValue_append, allZero,
    Decimal.digitsValue_replicate_zero, add_zero, List.length_replicate] at value
  have lengths : kept.length + zeros.length = 9 := by
    rw [← List.length_append, ← split, digits_def, length_padDigits]
  refine ⟨kept, by simp [appendNano, nonzero, padded, kept], fun empty => ?_, by omega,
    fun c mem => padDigits_digits 9 nanosecond c (by rw [← digits_def, split]; exact List.mem_append_left _ mem), ?_⟩
  · rw [empty] at value
    exact nonzero (by simpa [Decimal.digitsValue] using value.symm)
  · rw [show 9 - kept.length = zeros.length by omega]
    exact value

/-- `parseNanoseconds` scales the kept digits back. -/
private theorem parseNanoseconds_kept {kept : List Char} (short : kept.length ≤ 9)
    (digits : ∀ c ∈ kept, ∃ k < 10, c = Nat.digitChar k) :
    parseNanoseconds (kept.map ascii) = Decimal.digitsValue kept * 10 ^ (9 - kept.length) := by
  rw [parseNanoseconds, List.take_of_length_le (by simpa using short), filterMap_digitValue? digits,
    List.foldl_map, List.length_map]
  rfl

/-- The fraction ends where the zone starts. -/
private theorem splitFraction_fraction {kept zone : List Char} (nonempty : kept ≠ [])
    (digits : ∀ c ∈ kept, ∃ k < 10, c = Nat.digitChar k)
    (stop : ∀ c ∈ zone.head?, digitValue? (ascii c) = none) :
    splitFraction (('.' :: kept ++ zone).map ascii) = (parseNanoseconds (kept.map ascii), zone.map ascii) := by
  obtain ⟨d, more, rfl⟩ := List.exists_cons_of_ne_nil nonempty
  obtain ⟨k, small, rfl⟩ := digits d (List.mem_cons_self _ _)
  have pass : ∀ b ∈ more.map ascii, (digitValue? b).isSome = true := by
    simp only [List.mem_map]
    rintro _ ⟨c, mem, rfl⟩
    obtain ⟨j, small, rfl⟩ := digits c (List.mem_cons_of_mem _ mem)
    simp [digitValue?_digitChar j small]
  have halt : List.takeWhile (fun b => (digitValue? b).isSome) (zone.map ascii) = [] ∧
      List.dropWhile (fun b => (digitValue? b).isSome) (zone.map ascii) = zone.map ascii := by
    cases zone with
    | nil => exact ⟨rfl, rfl⟩
    | cons z rest => simp [stop z rfl]
  simp only [List.cons_append, List.map_cons, List.map_append, splitFraction, digitValue?_digitChar k small,
    Option.isSome_some, and_true, if_true, List.takeWhile_append_of_pos pass,
    List.dropWhile_append_of_pos pass, halt.1, halt.2, List.append_nil]

/-! ## The zone -/

/-- The offset a zone written by `appendZone` reads back as: whole minutes, rounded toward
zero. -/
def minuteOffset (offset : Int) : Int :=
  if offset < 0 then -((offset.natAbs / 60 * 60 : Nat) : Int) else ((offset.natAbs / 60 * 60 : Nat) : Int)

private theorem appendZone_head (offset : Int) : ∀ c ∈ (appendZone offset).head?, digitValue? (ascii c) = none := by
  unfold appendZone
  split
  · decide
  · intro c mem
    simp only [List.head?_cons, Option.mem_def, Option.some.injEq] at mem
    subst mem
    split <;> decide

private theorem appendZone_sign (offset : Int) :
    ∃ sign rest, appendZone offset = sign :: rest ∧ ascii sign ≠ ascii '.' := by
  unfold appendZone
  split
  · exact ⟨_, _, rfl, by decide⟩
  · exact ⟨_, _, rfl, by split <;> decide⟩

private theorem appendZone_ne_zero {offset : Int} (nonzero : offset ≠ 0) (hour : offset.natAbs / 60 / 60 < 24) :
    appendZone offset =
      [if offset < 0 ∧ offset.natAbs / 60 ≠ 0 then '-' else '+',
        Nat.digitChar (offset.natAbs / 60 / 60 / 10 % 10), Nat.digitChar (offset.natAbs / 60 / 60 % 10), ':',
        Nat.digitChar (offset.natAbs / 60 % 60 / 10 % 10), Nat.digitChar (offset.natAbs / 60 % 60 % 10)] := by
  have hours : appendInt ((offset.natAbs / 60 / 60 : Nat) : Int) 2 = padDigits 2 (offset.natAbs / 60 / 60) :=
    appendInt_eq_padDigits 1 _ (by omega)
  have minutes : appendInt ((offset.natAbs / 60 % 60 : Nat) : Int) 2 = padDigits 2 (offset.natAbs / 60 % 60) :=
    appendInt_eq_padDigits 1 _ (by omega)
  simp only [appendZone, nonzero, if_false]
  rw [show ((offset.natAbs / 60 : Nat) : Int) / 60 = ((offset.natAbs / 60 / 60 : Nat) : Int) by omega,
    show ((offset.natAbs / 60 : Nat) : Int) % 60 = ((offset.natAbs / 60 % 60 : Nat) : Int) by omega,
    hours, minutes, padDigits_two, padDigits_two]
  rfl

/-- `parseZone` of a sign, two digits of hours, a colon and two digits of minutes. -/
private theorem parseZone_six {sign : Char} (signed : sign = '-' ∨ sign = '+') {hours minutes : Nat}
    (hoursLt : hours < 24) (minutesLt : minutes < 60) :
    parseZone ([sign, Nat.digitChar (hours / 10 % 10), Nat.digitChar (hours % 10), ':',
        Nat.digitChar (minutes / 10 % 10), Nat.digitChar (minutes % 10)].map ascii) =
      some (if sign = '-' then -(((hours * 60 + minutes) * 60 : Nat) : Int)
        else (((hours * 60 + minutes) * 60 : Nat) : Int)) := by
  have readHours := parseUint_two (show hours < 100 by omega) (Nat.zero_le _) (show hours ≤ 23 by omega)
  have readMinutes := parseUint_two (show minutes < 100 by omega) (Nat.zero_le _) (show minutes ≤ 59 by omega)
  rcases signed with rfl | rfl <;>
    simp [parseZone, readHours, readMinutes, (by decide : ascii '+' ≠ ascii '-')]

private theorem parseZone_appendZone {offset : Int} (hour : offset ≠ 0 → offset.natAbs / 60 / 60 < 24) :
    parseZone ((appendZone offset).map ascii) = some (minuteOffset offset) := by
  by_cases zero : offset = 0
  · subst zero
    rfl
  have signed : (if offset < 0 ∧ offset.natAbs / 60 ≠ 0 then '-' else '+') = '-' ∨
      (if offset < 0 ∧ offset.natAbs / 60 ≠ 0 then '-' else '+') = '+' := by
    split <;> simp
  rw [appendZone_ne_zero zero (hour zero), parseZone_six signed (hour zero) (Nat.mod_lt _ (by decide)),
    Nat.div_add_mod' (offset.natAbs / 60) 60]
  unfold minuteOffset
  by_cases negative : offset < 0 ∧ offset.natAbs / 60 ≠ 0
  · simp [negative]
  · by_cases below : offset < 0
    · have none : offset.natAbs / 60 = 0 := by simpa [below] using negative
      simp [negative, below, none]
    · simp [negative, below]

/-! ## The whole text -/

private theorem splitFraction_appendNano {nanosecond : Nat} (small : nanosecond < 10 ^ 9) (offset : Int) :
    splitFraction ((appendNano nanosecond ++ appendZone offset).map ascii) =
      (nanosecond, (appendZone offset).map ascii) := by
  by_cases zero : nanosecond = 0
  · subst zero
    obtain ⟨sign, rest, written, notPoint⟩ := appendZone_sign offset
    simp only [appendNano, if_true, List.nil_append, written, List.map_cons]
    cases rest <;> simp [splitFraction, notPoint]
  · obtain ⟨kept, written, nonempty, short, digits, value⟩ := appendNano_digits small zero
    rw [written, splitFraction_fraction nonempty digits (appendZone_head offset),
      parseNanoseconds_kept short digits, value]

private theorem appendInt_two {x : Nat} (small : x < 100) :
    appendInt (x : Int) 2 = [Nat.digitChar (x / 10 % 10), Nat.digitChar (x % 10)] := by
  rw [appendInt_eq_padDigits 1 x small, padDigits_two]

/-- `parseRFC3339` reads back what `appendFormatRFC3339` wrote, the offset in whole minutes. -/
private theorem parseRFC3339_formatRFC3339 {t : Time} (yearRange : 0 ≤ t.year ∧ t.year ≤ 9999)
    (hour : t.offset ≠ 0 → t.offset.natAbs / 60 / 60 < 24) :
    parseRFC3339 ((formatRFC3339 t).map ascii) = some { t with offset := minuteOffset t.offset } := by
  obtain ⟨year, month, day, hours, minutes, seconds, nanosecond, offset, monthMem, dayMem, hoursLt,
    minutesLt, secondsLt, nanosecondLt⟩ := t
  simp only at yearRange hour ⊢
  obtain ⟨y, rfl⟩ : ∃ y : Nat, year = y := ⟨year.toNat, (Int.toNat_of_nonneg yearRange.1).symm⟩
  have yearDigits : appendInt (y : Int) 4 = [Nat.digitChar (y / 10 / 10 / 10 % 10),
      Nat.digitChar (y / 10 / 10 % 10), Nat.digitChar (y / 10 % 10), Nat.digitChar (y % 10)] := by
    rw [appendInt_eq_padDigits 3 y (by omega)]
    simp [padDigits]
  have readYear : parseUint [ascii (Nat.digitChar (y / 10 / 10 / 10 % 10)), ascii (Nat.digitChar (y / 10 / 10 % 10)),
      ascii (Nat.digitChar (y / 10 % 10)), ascii (Nat.digitChar (y % 10))] 0 9999 = some y := by
    simpa [padDigits] using parseUint_padDigits (show y < 10 ^ 4 by omega) (Nat.zero_le y) (by omega)
  have days : daysIn month (y : Int) ≤ 31 := by unfold daysIn; split_ifs <;> omega
  simp only [formatRFC3339, yearDigits, appendInt_two (show month < 100 by omega),
    appendInt_two (show day < 100 by omega), appendInt_two (show hours < 100 by omega),
    appendInt_two (show minutes < 100 by omega), appendInt_two (show seconds < 100 by omega)]
  simp only [List.cons_append, List.nil_append, List.map_cons, parseRFC3339, List.length_cons,
    List.getElem?_cons_succ, List.getElem?_cons_zero, List.take_succ_cons, List.take_zero, List.drop_succ_cons,
    List.drop_zero, readYear, parseUint_two (show month < 100 by omega) monthMem.1 monthMem.2,
    parseUint_two (show day < 100 by omega) dayMem.1 dayMem.2, parseUint_two (show hours < 100 by omega)
      (Nat.zero_le _) (show hours ≤ 23 by omega), parseUint_two (show minutes < 100 by omega) (Nat.zero_le _)
      (show minutes ≤ 59 by omega), parseUint_two (show seconds < 100 by omega) (Nat.zero_le _)
      (show seconds ≤ 59 by omega), ← List.map_append, splitFraction_appendNano nanosecondLt,
    parseZone_appendZone hour]
  simp [ofFields?, monthMem, dayMem, hoursLt, minutesLt, secondsLt, nanosecondLt]

/-! ## The characters -/

/-- The characters `appendFormatRFC3339` writes: digits, separators, `Z` and the signs. -/
def timeChars : List Char := ['0', '1', '2', '3', '4', '5', '6', '7', '8', '9', '-', ':', 'T', '.', 'Z', '+']

private theorem digitChar_mem_timeChars : ∀ k < 10, Nat.digitChar k ∈ timeChars := by decide

private theorem appendInt_timeChars {width x : Nat} (small : x < 10 ^ (width + 1)) :
    ∀ c ∈ appendInt (x : Int) (width + 1), c ∈ timeChars := by
  rw [appendInt_eq_padDigits width x small]
  intro c mem
  obtain ⟨k, digit, rfl⟩ := padDigits_digits _ _ c mem
  exact digitChar_mem_timeChars k digit

private theorem appendNano_timeChars {nanosecond : Nat} (small : nanosecond < 10 ^ 9) :
    ∀ c ∈ appendNano nanosecond, c ∈ timeChars := by
  by_cases zero : nanosecond = 0
  · simp [appendNano, zero]
  · obtain ⟨kept, written, -, -, digits, -⟩ := appendNano_digits small zero
    rw [written, List.forall_mem_cons]
    refine ⟨by decide, fun c mem => ?_⟩
    obtain ⟨k, digit, rfl⟩ := digits c mem
    exact digitChar_mem_timeChars k digit

private theorem appendZone_timeChars {offset : Int} (hour : offset ≠ 0 → offset.natAbs / 60 / 60 < 24) :
    ∀ c ∈ appendZone offset, c ∈ timeChars := by
  by_cases zero : offset = 0
  · simp [appendZone, zero, timeChars]
  · have digit := fun k small => digitChar_mem_timeChars k small
    rw [appendZone_ne_zero zero (hour zero)]
    simp only [List.forall_mem_cons, List.not_mem_nil, false_imp_iff, implies_true, and_true]
    refine ⟨by split <;> decide, digit _ (Nat.mod_lt _ (by decide)), digit _ (Nat.mod_lt _ (by decide)),
      by decide, digit _ (Nat.mod_lt _ (by decide)), digit _ (Nat.mod_lt _ (by decide))⟩

theorem formatRFC3339_timeChars {t : Time} (yearRange : 0 ≤ t.year ∧ t.year ≤ 9999)
    (hour : t.offset ≠ 0 → t.offset.natAbs / 60 / 60 < 24) : ∀ c ∈ formatRFC3339 t, c ∈ timeChars := by
  obtain ⟨year, month, day, hours, minutes, seconds, nanosecond, offset, monthMem, dayMem, hoursLt,
    minutesLt, secondsLt, nanosecondLt⟩ := t
  simp only at yearRange hour ⊢
  obtain ⟨y, rfl⟩ : ∃ y : Nat, year = y := ⟨year.toNat, (Int.toNat_of_nonneg yearRange.1).symm⟩
  have days : daysIn month (y : Int) ≤ 31 := by unfold daysIn; split_ifs <;> omega
  simp only [formatRFC3339, List.forall_mem_append, List.forall_mem_cons, and_assoc]
  exact ⟨appendInt_timeChars (show y < 10 ^ (3 + 1) by omega), by decide,
    appendInt_timeChars (show month < 10 ^ (1 + 1) by omega), by decide,
    appendInt_timeChars (show day < 10 ^ (1 + 1) by omega), by decide,
    appendInt_timeChars (show hours < 10 ^ (1 + 1) by omega), by decide,
    appendInt_timeChars (show minutes < 10 ^ (1 + 1) by omega), by decide,
    appendInt_timeChars (show seconds < 10 ^ (1 + 1) by omega),
    appendNano_timeChars nanosecondLt, appendZone_timeChars hour⟩

/-! ## Marshal and unmarshal -/

private theorem natAbs_minuteOffset (offset : Int) : (minuteOffset offset).natAbs = offset.natAbs / 60 * 60 := by
  unfold minuteOffset
  split <;> simp only [Int.natAbs_neg, Int.natAbs_ofNat]

private theorem minuteOffset_eq_zero {offset : Int} : minuteOffset offset = 0 ↔ offset.natAbs < 60 := by
  unfold minuteOffset
  split <;> omega

private theorem minuteOffset_neg {offset : Int} : minuteOffset offset < 0 ↔ offset < 0 ∧ 60 ≤ offset.natAbs := by
  unfold minuteOffset
  split <;> omega

/-- A whole-minute offset is written as it was. Below a minute it is not: `+00:00` is read back
as zero, which is written `Z`. -/
private theorem appendZone_minuteOffset {offset : Int} (zone : offset = 0 ∨ 60 ≤ offset.natAbs) :
    appendZone (minuteOffset offset) = appendZone offset := by
  rcases zone with rfl | whole
  · rfl
  have nonzero : offset ≠ 0 := by omega
  have notSmall : ¬offset.natAbs < 60 := by omega
  simp only [appendZone, minuteOffset_eq_zero, natAbs_minuteOffset, minuteOffset_neg, nonzero, notSmall,
    Nat.mul_div_cancel _ (by decide : 0 < 60), whole, and_true, if_false]

/-- `Time.MarshalJSON` succeeds exactly on a four-digit year and a zone hour below 24, and then
writes the quoted RFC 3339 text. -/
theorem marshalJSON_eq_ok {t : Time} {data : Bytes} :
    t.marshalJSON = .ok data ↔ (0 ≤ t.year ∧ t.year ≤ 9999) ∧
      (t.offset ≠ 0 → t.offset.natAbs / 60 / 60 < 24) ∧ data = ('"' :: formatRFC3339 t ++ ['"']).map ascii := by
  unfold marshalJSON
  by_cases year : 0 ≤ t.year ∧ t.year ≤ 9999
  · by_cases zone : t.offset ≠ 0 ∧ 24 ≤ t.offset.natAbs / 60 / 60
    · rw [if_neg (not_not.mpr year), if_pos zone]
      exact ⟨nofun, fun ⟨_, hour, _⟩ => absurd (hour zone.1) (by omega)⟩
    · rw [if_neg (not_not.mpr year), if_neg zone]
      exact ⟨fun written => ⟨year, fun nonzero => by omega, (Except.ok.inj written).symm⟩,
        fun ⟨_, _, written⟩ => written ▸ rfl⟩
  · rw [if_pos year]
    exact ⟨nofun, fun ⟨inRange, _⟩ => absurd inRange year⟩

theorem marshalJSON_minuteOffset (t : Time) (zone : t.offset = 0 ∨ 60 ≤ t.offset.natAbs) :
    ({ t with offset := minuteOffset t.offset } : Time).marshalJSON = t.marshalJSON := by
  have nonzero : minuteOffset t.offset ≠ 0 ↔ t.offset ≠ 0 := by
    rw [ne_eq, minuteOffset_eq_zero]
    omega
  simp only [marshalJSON, formatRFC3339, appendZone_minuteOffset zone, nonzero, natAbs_minuteOffset,
    Nat.mul_div_cancel _ (by decide : 0 < 60)]

/-- `Time.UnmarshalJSON` reads back what `Time.MarshalJSON` wrote, the offset in whole minutes. -/
theorem unmarshalJSON_marshalJSON {t : Time} {data : Bytes} (marshalled : t.marshalJSON = .ok data)
    (before : Time) : before.unmarshalJSON data = .ok { t with offset := minuteOffset t.offset } := by
  obtain ⟨yearRange, hour, rfl⟩ := marshalJSON_eq_ok.mp marshalled
  have quoted : ('"' :: formatRFC3339 t ++ ['"']).map ascii =
      ascii '"' :: ((formatRFC3339 t).map ascii ++ [ascii '"']) := by
    simp
  have notNull : ascii '"' :: ((formatRFC3339 t).map ascii ++ [ascii '"']) ≠ asciiBytes "null" := by
    intro same
    exact absurd (List.head_eq_of_cons_eq same) (by decide)
  have closed : (ascii '"' :: ((formatRFC3339 t).map ascii ++ [ascii '"'])).getLast? = some (ascii '"') := by
    rw [← List.cons_append, List.getLast?_concat]
  rw [quoted, unmarshalJSON, if_neg notNull, if_neg (by simp [closed]), List.drop_one, List.tail_cons,
    List.dropLast_concat, parseRFC3339_formatRFC3339 yearRange hour]

end Time

end EndpointAgent
