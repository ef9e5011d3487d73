import EndpointAgent.Basic

/-!
# Decimal text of integers

`strconv.Itoa`, `%d` and `toString` write integers in decimal; this module reads such text
back and shows that distinct integers have distinct texts, so that file names built from
clock readings (`batch_%d.json`) are distinct exactly when the readings are.
-/

set_option autoImplicit false

namespace EndpointAgent.Decimal

/-- The value of one decimal digit character. -/
def digitValue (c : Char) : Nat := c.toNat - '0'.toNat

/-- The value of a string of decimal digits, most significant first. -/
def digitsValue (digits : List Char) : Nat :=
  digits.foldl (fun acc c => 10 * acc + digitValue c) 0

private theorem foldl_digits (acc : Nat) (digits : List Char) :
    digits.foldl (fun acc c => 10 * acc + digitValue c) acc =
      acc * 10 ^ digits.length + digitsValue digits := by
  induction digits generalizing acc with
  | nil => simp [digitsValue]
  | cons c rest ih =>
      have first := ih (10 * 0 + digitValue c)
      simp only [List.foldl_cons, digitsValue, List.length_cons] at first ⊢
      rw [ih (10 * acc + digitValue c), first]
      simp only [digitsValue]
      ring

theorem digitsValue_cons (c : Char) (rest : List Char) :
    digitsValue (c :: rest) = digitValue c * 10 ^ rest.length + digitsValue rest := by
  rw [digitsValue, List.foldl_cons, foldl_digits]
  simp

/-- Digits written after others scale those by a power of ten. -/
theorem digitsValue_append (front back : List Char) :
    digitsValue (front ++ back) = digitsValue front * 10 ^ back.length + digitsValue back := by
  rw [digitsValue, List.foldl_append, foldl_digits]
  rfl

@[simp] theorem digitsValue_replicate_zero (j : Nat) : digitsValue (List.replicate j '0') = 0 := by
  induction j with
  | zero => rfl
  | succ j ih => rw [List.replicate_succ, digitsValue_cons, ih]; simp [digitValue]

private theorem digitValue_digitChar : ∀ k < 10, digitValue (Nat.digitChar k) = k := by
  decide

private theorem isDigit_digitChar : ∀ k < 10, (Nat.digitChar k).isDigit = true := by
  decide

private theorem digitsValue_toDigitsCore (fuel n : Nat) (digits : List Char) (enough : n < fuel) :
    digitsValue (Nat.toDigitsCore 10 fuel n digits) = n * 10 ^ digits.length + digitsValue digits := by
  induction fuel generalizing n digits with
  | zero => omega
  | succ fuel ih =>
      have low := digitValue_digitChar (n % 10) (Nat.mod_lt _ (by decide))
      unfold Nat.toDigitsCore
      dsimp only
      split
      · rename_i small
        rw [digitsValue_cons, low, Nat.mod_eq_of_lt (by omega)]
      · rename_i large
        rw [ih _ _ (by omega), digitsValue_cons, low, List.length_cons, pow_succ]
        have parts := Nat.div_add_mod n 10
        calc n / 10 * (10 ^ digits.length * 10) + (n % 10 * 10 ^ digits.length + digitsValue digits)
            = (10 * (n / 10) + n % 10) * 10 ^ digits.length + digitsValue digits := by ring
          _ = n * 10 ^ digits.length + digitsValue digits := by rw [parts]

/-- Reading back the digits `toString` writes for a natural number gives the number. -/
theorem digitsValue_toDigits (n : Nat) : digitsValue (Nat.toDigits 10 n) = n := by
  simpa [digitsValue] using digitsValue_toDigitsCore (n + 1) n [] (by omega)

private theorem isDigit_toDigitsCore (fuel n : Nat) (digits : List Char)
    (previous : ∀ c ∈ digits, c.isDigit = true) :
    ∀ c ∈ Nat.toDigitsCore 10 fuel n digits, c.isDigit = true := by
  induction fuel generalizing n digits with
  | zero => exact previous
  | succ fuel ih =>
      have head := isDigit_digitChar (n % 10) (Nat.mod_lt _ (by decide))
      unfold Nat.toDigitsCore
      dsimp only
      split
      · exact List.forall_mem_cons.mpr ⟨head, previous⟩
      · exact ih _ _ (List.forall_mem_cons.mpr ⟨head, previous⟩)

theorem isDigit_of_mem_toDigits (n : Nat) : ∀ c ∈ Nat.toDigits 10 n, c.isDigit = true :=
  isDigit_toDigitsCore _ _ [] (by simp)

theorem toString_int_data (n : Int) :
    (toString n).data = match n with
      | .ofNat m => Nat.toDigits 10 m
      | .negSucc m => '-' :: Nat.toDigits 10 (m + 1) := by
  cases n <;> rfl

/-- Distinct integers have distinct decimal texts. -/
theorem toString_int_injective {a b : Int} (same : toString a = toString b) : a = b := by
  have data := congrArg String.data same
  rw [toString_int_data, toString_int_data] at data
  have noMinus : ∀ (m : Nat) (rest : List Char), Nat.toDigits 10 m ≠ '-' :: rest :=
    fun m rest equal => absurd (isDigit_of_mem_toDigits m '-' (equal ▸ List.mem_cons_self _ _))
      (by decide)
  cases a <;> cases b <;> simp only at data
  · have := congrArg digitsValue data
    rw [digitsValue_toDigits, digitsValue_toDigits] at this
    rw [this]
  · exact absurd data (noMinus _ _)
  · exact absurd data.symm (noMinus _ _)
  · rename_i m k
    have := congrArg digitsValue (List.cons.inj data).2
    rw [digitsValue_toDigits, digitsValue_toDigits] at this
    rw [show m = k by omega]

/-! ## Trailing zeros -/

private theorem toDigitsCore_append (fuel n : Nat) (digits : List Char) (enough : n < fuel) :
    Nat.toDigitsCore 10 fuel n digits = Nat.toDigitsCore 10 fuel n [] ++ digits := by
  induction fuel generalizing n digits with
  | zero => omega
  | succ fuel ih =>
      unfold Nat.toDigitsCore
      dsimp only
      split
      · rfl
      · rw [ih _ _ (by omega), ih _ [_] (by omega), List.append_assoc, List.singleton_append]

private theorem toDigitsCore_fuel (fuel fuel' n : Nat) (digits : List Char) (enough : n < fuel)
    (enough' : n < fuel') : Nat.toDigitsCore 10 fuel n digits = Nat.toDigitsCore 10 fuel' n digits := by
  induction fuel generalizing fuel' n digits with
  | zero => omega
  | succ fuel ih =>
      cases fuel' with
      | zero => omega
      | succ fuel' =>
          unfold Nat.toDigitsCore
          dsimp only
          split
          · rfl
          · exact ih _ _ _ (by omega) (by omega)

/-- A positive number with one more digit: its digits, then that digit. -/
theorem toDigits_push {q : Nat} (pos : 0 < q) {r : Nat} (small : r < 10) :
    Nat.toDigits 10 (10 * q + r) = Nat.toDigits 10 q ++ [Nat.digitChar r] := by
  unfold Nat.toDigits
  rw [Nat.toDigitsCore]
  rw [show (10 * q + r) % 10 = r by omega, show (10 * q + r) / 10 = q by omega, if_neg (by omega),
    toDigitsCore_append _ _ _ (by omega), toDigitsCore_fuel (10 * q + r) (q + 1) _ _ (by omega) (by omega)]

/-- The digits of `d * 10 ^ j` are those of `d` and `j` zeros. -/
theorem toDigits_mul_pow {d : Nat} (pos : 0 < d) (j : Nat) :
    Nat.toDigits 10 (d * 10 ^ j) = Nat.toDigits 10 d ++ List.replicate j '0' := by
  induction j with
  | zero => simp
  | succ j ih =>
      rw [pow_succ, ← mul_assoc, mul_comm _ 10, ← Nat.add_zero (10 * _),
        toDigits_push (Nat.mul_pos pos (by positivity)) (by decide), ih, List.replicate_succ',
        List.append_assoc]
      rfl

/-- The digits of a positive number do not start with a zero. -/
theorem toDigits_head {d : Nat} (pos : 0 < d) :
    ∃ c rest, Nat.toDigits 10 d = c :: rest ∧ c ≠ '0' ∧ c.isDigit = true := by
  induction d using Nat.strong_induction_on with
  | _ d ih =>
      by_cases small : d < 10
      · refine ⟨Nat.digitChar d, [], ?_, ?_, isDigit_digitChar d small⟩
        · unfold Nat.toDigits
          rw [Nat.toDigitsCore]
          simp [Nat.mod_eq_of_lt small, Nat.div_eq_of_lt small]
        · interval_cases d <;> decide
      · obtain ⟨c, rest, digits, nonzero, digit⟩ := ih (d / 10) (by omega) (by omega)
        refine ⟨c, rest ++ [Nat.digitChar (d % 10)], ?_, nonzero, digit⟩
        conv_lhs => rw [show d = 10 * (d / 10) + d % 10 by omega]
        rw [toDigits_push (by omega) (Nat.mod_lt _ (by decide)), digits]
        rfl

end EndpointAgent.Decimal
