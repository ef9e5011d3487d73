import EndpointAgent.Json.Float64
import EndpointAgent.Decimal

/-!
# Reading a float64 back

What the round trip of a `float64` through its JSON text rests on. `ParseFloat`, as
`ofDecimal` computes it, depends only on the value of the decimal it reads, not on how the
digits are split between the significand and the exponent; it returns a finite float
unchanged when given that float's exact value; and the digits `ryuFtoaShortest` chooses read
back as the float they were chosen for.

The rounding is computed in whole numbers; the facts about it are stated over `ℚ`, where the
value `num / den` and the powers `base ^ e` of integer exponent live.
-/

set_option autoImplicit false

namespace EndpointAgent

namespace Float64

/-! ## Digit lengths and `floorLog` -/

section Logs

variable {base : Nat}

private theorem digitLengthAux_zero (fuel : Nat) : digitLengthAux base fuel 0 = 0 := by
  cases fuel <;> simp [digitLengthAux]

private theorem digitLengthAux_eq_log (hb : 2 ≤ base) :
    ∀ fuel n, 0 < n → n ≤ fuel → digitLengthAux base fuel n = Nat.log base n + 1
  | 0, _, pos, enough => by omega
  | fuel + 1, n, pos, enough => by
    rw [digitLengthAux, if_neg (by omega)]
    by_cases small : n < base
    · rw [Nat.div_eq_of_lt small, digitLengthAux_zero, Nat.log_of_lt small]
    · have shorter := Nat.div_lt_self pos (by omega : 1 < base)
      have positive : 1 ≤ Nat.log base n := Nat.log_pos (by omega) (by omega)
      rw [digitLengthAux_eq_log hb fuel (n / base) (Nat.div_pos (by omega) (by omega)) (by omega),
        Nat.log_div_base]
      omega

/-- For a positive `n`, one more than `⌊log_base n⌋`. -/
private theorem digitLength_eq_log (hb : 2 ≤ base) {n : Nat} (pos : 0 < n) :
    digitLength base n = Nat.log base n + 1 :=
  digitLengthAux_eq_log hb n n pos le_rfl

private theorem digitLength_bounds (hb : 2 ≤ base) {n : Nat} (pos : 0 < n) :
    base ^ (digitLength base n - 1) ≤ n ∧ n < base ^ digitLength base n := by
  rw [digitLength_eq_log hb pos, Nat.add_sub_cancel]
  exact ⟨Nat.pow_log_le_self base (by omega), Nat.lt_pow_succ_log_self (by omega) n⟩

/-- `AtLeastPow` is the comparison `base ^ e ≤ num / den`. -/
private theorem atLeastPow_iff (hb : 0 < base) {num den : Nat} (hd : 0 < den) (e : Int) :
    AtLeastPow base num den e ↔ (base : ℚ) ^ e ≤ num / den := by
  have split : (base : ℚ) ^ e = (base : ℚ) ^ e.toNat / (base : ℚ) ^ (-e).toNat := by
    rw [← zpow_natCast, ← zpow_natCast, ← zpow_sub₀ (by positivity)]
    congr 1
    omega
  rw [split, div_le_div_iff₀ (by positivity) (by positivity), AtLeastPow, mul_comm (_ ^ _)]
  exact_mod_cast Iff.rfl

section Spec

variable (hb : 2 ≤ base) {num den : Nat} (hn : 0 < num) (hd : 0 < den)
include hb hn hd

/-- `floorLog` is `⌊log_base (num / den)⌋`: the digit counts of `num` and `den` put the
logarithm within one of their difference, and the comparison picks the side. -/
private theorem floorLog_spec :
    (base : ℚ) ^ floorLog base num den ≤ num / den ∧
      (num / den : ℚ) < base ^ (floorLog base num den + 1) := by
  have b0 : (0 : ℚ) < base := by exact_mod_cast (by omega : 0 < base)
  obtain ⟨numLow, numHigh⟩ := digitLength_bounds hb hn
  obtain ⟨denLow, denHigh⟩ := digitLength_bounds hb hd
  have numLen : 1 ≤ digitLength base num := by
    by_contra zero; simp only [not_le, Nat.lt_one_iff] at zero; simp [zero] at numHigh; omega
  have denLen : 1 ≤ digitLength base den := by
    by_contra zero; simp only [not_le, Nat.lt_one_iff] at zero; simp [zero] at denHigh; omega
  set guess : Int := digitLength base num - digitLength base den
  have above : (base : ℚ) ^ (guess - 1) ≤ num / den := by
    have : guess - 1 = ((digitLength base num - 1 : Nat) : Int) - (digitLength base den : Nat) := by
      omega
    rw [this, zpow_sub₀ b0.ne', zpow_natCast, zpow_natCast]
    gcongr
    · exact_mod_cast numLow
    · exact_mod_cast denHigh.le
  have below : (num / den : ℚ) < base ^ (guess + 1) := by
    have : guess + 1 = (digitLength base num : Int) - ((digitLength base den - 1 : Nat) : Int) := by
      omega
    rw [this, zpow_sub₀ b0.ne', zpow_natCast, zpow_natCast]
    have : (num : ℚ) < (base : ℚ) ^ digitLength base num := by exact_mod_cast numHigh
    have : (base : ℚ) ^ (digitLength base den - 1) ≤ den := by exact_mod_cast denLow
    calc (num / den : ℚ) ≤ num / (base : ℚ) ^ (digitLength base den - 1) := by gcongr
      _ < (base : ℚ) ^ digitLength base num / (base : ℚ) ^ (digitLength base den - 1) := by gcongr
  unfold floorLog
  dsimp only
  split
  · rename_i reached
    exact ⟨(atLeastPow_iff (by omega) hd _).mp reached, below⟩
  · rename_i short
    rw [atLeastPow_iff (by omega) hd] at short
    exact ⟨above, by simpa using not_le.mp short⟩

/-- `floorLog` is the only integer `e` with `base ^ e ≤ num / den < base ^ (e + 1)`. -/
private theorem floorLog_eq_of {e : Int} (low : (base : ℚ) ^ e ≤ num / den)
    (high : (num / den : ℚ) < base ^ (e + 1)) : floorLog base num den = e := by
  have b1 : (1 : ℚ) < base := by exact_mod_cast (by omega : 1 < base)
  obtain ⟨low', high'⟩ := floorLog_spec hb hn hd
  by_contra differs
  rcases lt_or_gt_of_ne differs with smaller | larger
  · have := zpow_le_zpow_right₀ b1.le (show floorLog base num den + 1 ≤ e by omega)
    linarith
  · have := zpow_le_zpow_right₀ b1.le (show e + 1 ≤ floorLog base num den by omega)
    linarith

end Spec

/-- `floorLog` depends only on the value `num / den`. -/
private theorem floorLog_congr (hb : 2 ≤ base) {num den num' den' : Nat} (hn : 0 < num) (hd : 0 < den)
    (hn' : 0 < num') (hd' : 0 < den') (same : (num / den : ℚ) = num' / den') :
    floorLog base num den = floorLog base num' den' := by
  obtain ⟨low, high⟩ := floorLog_spec hb hn hd
  rw [same] at low high
  exact (floorLog_eq_of hb hn' hd' low high).symm

/-- The value of the pair `(d * base ^ k⁺, base ^ k⁻)` that `ofDecimal` and `ratio` build. -/
private theorem scaled_value (hb : 0 < base) (d : Nat) (k : Int) :
    ((d * base ^ k.toNat : Nat) : ℚ) / ((base ^ (-k).toNat : Nat) : ℚ) = d * (base : ℚ) ^ k := by
  have split : (base : ℚ) ^ k = (base : ℚ) ^ k.toNat / (base : ℚ) ^ (-k).toNat := by
    rw [← zpow_natCast, ← zpow_natCast, ← zpow_sub₀ (by positivity)]
    congr 1
    omega
  rw [split]
  push_cast
  ring

/-- The digit count of `d` and the exponent `k` give the `floorLog` of `d * base ^ k`. -/
private theorem floorLog_scaled (hb : 2 ≤ base) {d : Nat} (pos : 0 < d) (k : Int) :
    floorLog base (d * base ^ k.toNat) (base ^ (-k).toNat) = digitLength base d + k - 1 := by
  obtain ⟨low, high⟩ := digitLength_bounds hb pos
  have b0 : (0 : ℚ) < base := by exact_mod_cast (by omega : 0 < base)
  have length : 1 ≤ digitLength base d := by
    by_contra zero; simp only [not_le, Nat.lt_one_iff] at zero; simp [zero] at high; omega
  apply floorLog_eq_of hb (Nat.mul_pos pos (by positivity)) (by positivity)
  · rw [scaled_value (by omega), show (digitLength base d : Int) + k - 1 =
      ((digitLength base d - 1 : Nat) : Int) + k by omega, zpow_add₀ b0.ne', zpow_natCast]
    gcongr
    exact_mod_cast low
  · rw [scaled_value (by omega), show (digitLength base d : Int) + k - 1 + 1 =
      (digitLength base d : Nat) + k by omega, zpow_add₀ b0.ne', zpow_natCast]
    gcongr
    exact_mod_cast high

end Logs

/-! ## Rounding depends on the value only -/

/-- Rounding `a / b` to a whole number depends on the value `a / b` only. -/
private theorem roundHalfEven_congr {a b a' b' : Nat} (hb : 0 < b) (hb' : 0 < b') (same : a * b' = a' * b) :
    roundHalfEven a b = roundHalfEven a' b' := by
  have quotient : a / b = a' / b' := by
    rw [← Nat.mul_div_mul_right a b hb', same, mul_comm b b', Nat.mul_div_mul_right a' b' hb]
  have remainder : 2 * (a % b) * b' = 2 * (a' % b') * b := by
    have whole := Nat.div_add_mod a b
    have whole' := Nat.div_add_mod a' b'
    rw [quotient] at whole
    generalize a % b = r at whole ⊢
    generalize a' % b' = r' at whole' ⊢
    generalize a' / b' = q at whole whole'
    subst whole whole'
    linarith
  have below : 2 * (a % b) < b ↔ 2 * (a' % b') < b' := by
    rw [← mul_lt_mul_right hb', remainder, mul_comm b b', mul_lt_mul_right hb]
  have above : b < 2 * (a % b) ↔ b' < 2 * (a' % b') := by
    rw [← mul_lt_mul_right hb', remainder, mul_comm b b', mul_lt_mul_right hb]
  unfold roundHalfEven
  simp only [quotient, below, above]

/-- A whole number rounds to itself. -/
private theorem roundHalfEven_mul (m : Nat) {c : Nat} (hc : 0 < c) : roundHalfEven (m * c) c = m := by
  unfold roundHalfEven
  simp [Nat.mul_div_cancel m hc, hc]

/-- Rounding to a whole number moves by less than one. -/
private theorem roundHalfEven_cases (a b : Nat) : roundHalfEven a b = a / b ∨ roundHalfEven a b = a / b + 1 := by
  unfold roundHalfEven
  dsimp only
  split_ifs <;> omega

/-- `roundPositive` depends on the value `num / den` only. -/
private theorem roundPositive_congr (negative : Bool) {num den num' den' : Nat} (hn : 0 < num) (hd : 0 < den)
    (hn' : 0 < num') (hd' : 0 < den') (same : (num / den : ℚ) = num' / den') :
    roundPositive negative num den = roundPositive negative num' den' := by
  have cross : num * den' = num' * den := by
    rw [div_eq_div_iff (by positivity) (by positivity)] at same
    exact_mod_cast same
  unfold roundPositive
  dsimp only
  rw [floorLog_congr (by decide) hn hd hn' hd' same]
  congr 1
  apply roundHalfEven_congr (by positivity) (by positivity)
  rw [mul_mul_mul_comm, cross, ← mul_mul_mul_comm]

/-! ## The sign -/

private theorem pack_sign (negative : Bool) (m : Nat) (q : Int) :
    pack negative m q = (pack false m q).map fun g => { g with negative } := by
  unfold pack
  split_ifs <;> rfl

private theorem roundPositive_sign (negative : Bool) (num den : Nat) :
    roundPositive negative num den = (roundPositive false num den).map fun g => { g with negative } :=
  pack_sign _ _ _

/-- `ParseFloat` reads the sign apart from the digits. -/
private theorem ofDecimal_sign (negative : Bool) (digits : Nat) (exp10 : Int) :
    ofDecimal negative digits exp10 = (ofDecimal false digits exp10).map fun g => { g with negative } := by
  unfold ofDecimal
  split_ifs
  · rfl
  · rfl
  · rfl
  · exact roundPositive_sign _ _ _

/-! ## A float's exact value reads back as the float -/

private theorem ext' {f g : Float64} (sign : f.negative = g.negative) (biased : f.biasedExp = g.biasedExp)
    (fraction : f.fraction = g.fraction) : f = g := by
  cases f; cases g; cases sign; cases biased; cases fraction; rfl

private theorem mant_lt (f : Float64) : f.mant < 2 ^ 53 := by
  have := f.fraction_lt
  unfold mant
  split <;> omega

/-- A float whose significand is zero is a zero. -/
theorem eq_zero_of_mant {f : Float64} (isZero : f.mant = 0) : f = zero f.negative := by
  unfold mant at isZero
  split at isZero
  · exact ext' rfl (by assumption) isZero
  · omega

private theorem exp_bounds {f : Float64} (finite : f.IsFinite) : -1074 ≤ f.exp ∧ f.exp ≤ 971 := by
  unfold exp
  unfold IsFinite at finite
  omega

/-- Rounding a finite float's exact value `mant * 2 ^ exp` gives the float: the exponent that
keeps 53 bits, or the least one, is the float's own, and nothing is left to round. -/
private theorem roundPositive_exact (negative : Bool) {f : Float64} (finite : f.IsFinite) (nonzero : f.mant ≠ 0) :
    roundPositive negative (f.mant * 2 ^ f.exp.toNat) (2 ^ (-f.exp).toNat) = some { f with negative } := by
  have positive := Nat.pos_of_ne_zero nonzero
  have bound := f.fraction_lt
  have exponent : max (floorLog 2 (f.mant * 2 ^ f.exp.toNat) (2 ^ (-f.exp).toNat)) (-1022) - 52 = f.exp := by
    rw [floorLog_scaled (by decide) positive, digitLength_eq_log (by decide) positive]
    unfold exp
    by_cases subnormal : f.biasedExp = 0
    · have mant : f.mant = f.fraction := if_pos subnormal
      have := Nat.log_lt_of_lt_pow nonzero (show f.mant < 2 ^ 52 by omega)
      omega
    · have mant : f.mant = 2 ^ 52 + f.fraction := if_neg subnormal
      have := Nat.log_eq_of_pow_le_of_lt_pow (show 2 ^ 52 ≤ f.mant by omega)
        (show f.mant < 2 ^ (52 + 1) by omega)
      omega
  unfold roundPositive
  dsimp only
  rw [exponent, mul_assoc, mul_comm (2 ^ (-f.exp).toNat), roundHalfEven_mul _ (by positivity)]
  unfold pack
  by_cases subnormal : f.biasedExp = 0
  · have mant : f.mant = f.fraction := if_pos subnormal
    rw [dif_pos (by omega)]
    exact congrArg some (ext' rfl subnormal.symm mant)
  · have mant : f.mant = 2 ^ 52 + f.fraction := if_neg subnormal
    unfold IsFinite at finite
    have : f.exp = f.biasedExp - 1075 := by unfold exp; omega
    rw [dif_neg (by omega), dif_pos (by omega), dif_pos (by omega)]
    exact congrArg some (ext' rfl (by dsimp only; omega) (by dsimp only; omega))

/-- `ParseFloat` depends on the value of the decimal only. -/
private theorem ofDecimal_congr (negative : Bool) {d d' : Nat} (pos : 0 < d) (pos' : 0 < d') {k k' : Int}
    (same : (d : ℚ) * 10 ^ k = d' * 10 ^ k') : ofDecimal negative d k = ofDecimal negative d' k' := by
  have value : ((d * 10 ^ k.toNat : Nat) : ℚ) / ((10 ^ (-k).toNat : Nat) : ℚ) =
      ((d' * 10 ^ k'.toNat : Nat) : ℚ) / ((10 ^ (-k').toNat : Nat) : ℚ) := by
    rw [scaled_value (by decide), scaled_value (by decide)]
    exact_mod_cast same
  have sameLog : (digitLength 10 d : Int) + k = digitLength 10 d' + k' := by
    have := floorLog_congr (by decide : 2 ≤ 10) (Nat.mul_pos pos (by positivity)) (by positivity)
      (Nat.mul_pos pos' (by positivity)) (by positivity) value
    rw [floorLog_scaled (by decide) pos, floorLog_scaled (by decide) pos'] at this
    omega
  unfold ofDecimal
  rw [if_neg pos.ne', if_neg pos'.ne', sameLog]
  split_ifs
  · rfl
  · rfl
  · exact roundPositive_congr negative (Nat.mul_pos pos (by positivity)) (by positivity)
      (Nat.mul_pos pos' (by positivity)) (by positivity) value

/-- `ParseFloat` depends on the value of the decimal only, zero included. -/
theorem ofDecimal_value_congr (negative : Bool) {d d' : Nat} {k k' : Int}
    (same : (d : ℚ) * 10 ^ k = d' * 10 ^ k') : ofDecimal negative d k = ofDecimal negative d' k' := by
  rcases Nat.eq_zero_or_pos d with rfl | pos <;> rcases Nat.eq_zero_or_pos d' with rfl | pos'
  · rfl
  · simp [pos'.ne', zpow_ne_zero] at same
  · simp [pos.ne', zpow_ne_zero] at same
  · exact ofDecimal_congr negative pos pos' same

/-- A decimal whose value is exactly a finite float's reads back as that float: a finite
float's value lies between `10 ^ -331` and `10 ^ 310`, so neither shortcut of `ParseFloat`
applies. -/
private theorem ofDecimal_exact (negative : Bool) {f : Float64} (finite : f.IsFinite) (nonzero : f.mant ≠ 0)
    {d : Nat} (pos : 0 < d) {k : Int} (exact : (d : ℚ) * 10 ^ k = f.mant * 2 ^ f.exp) :
    ofDecimal negative d k = some { f with negative } := by
  have positive := Nat.pos_of_ne_zero nonzero
  obtain ⟨expLow, expHigh⟩ := exp_bounds finite
  obtain ⟨low, high⟩ := floorLog_spec (by decide : 2 ≤ 10)
    (Nat.mul_pos pos (by positivity) : 0 < d * 10 ^ k.toNat) (by positivity : 0 < 10 ^ (-k).toNat)
  rw [floorLog_scaled (by decide) pos, scaled_value (by decide)] at low high
  push_cast at low high
  rw [exact] at low high
  have valueLow : (2 : ℚ) ^ (-1074 : ℤ) ≤ f.mant * 2 ^ f.exp :=
    calc (2 : ℚ) ^ (-1074 : ℤ) ≤ 2 ^ f.exp := zpow_le_zpow_right₀ (by norm_num) expLow
      _ ≤ f.mant * 2 ^ f.exp := le_mul_of_one_le_left (by positivity) (by exact_mod_cast positive)
  have valueHigh : (f.mant : ℚ) * 2 ^ f.exp < 2 ^ (1024 : ℤ) :=
    calc (f.mant : ℚ) * 2 ^ f.exp < 2 ^ ((53 : Nat) : ℤ) * 2 ^ f.exp := by
          rw [zpow_natCast]
          gcongr
          exact_mod_cast f.mant_lt
      _ ≤ 2 ^ ((53 : Nat) : ℤ) * 2 ^ (971 : ℤ) :=
          mul_le_mul_of_nonneg_left (zpow_le_zpow_right₀ (by norm_num) expHigh) (by positivity)
      _ = 2 ^ (1024 : ℤ) := by norm_num
  have upper : (digitLength 10 d : Int) + k - 1 ≤ 309 := by
    by_contra over
    have : (10 : ℚ) ^ (310 : ℤ) ≤ 10 ^ ((digitLength 10 d : Int) + k - 1) :=
      zpow_le_zpow_right₀ (by norm_num) (by omega)
    have : (2 : ℚ) ^ (1024 : ℤ) < 10 ^ (310 : ℤ) := by norm_num
    linarith
  have lower : -331 ≤ (digitLength 10 d : Int) + k - 1 := by
    by_contra under
    have : (10 : ℚ) ^ ((digitLength 10 d : Int) + k - 1 + 1) ≤ 10 ^ (-331 : ℤ) :=
      zpow_le_zpow_right₀ (by norm_num) (by omega)
    have : (10 : ℚ) ^ (-331 : ℤ) ≤ 2 ^ (-1074 : ℤ) := by norm_num
    linarith
  unfold ofDecimal
  rw [if_neg pos.ne', if_neg (by omega), if_neg (by omega)]
  rw [roundPositive_congr negative (Nat.mul_pos pos (by positivity)) (by positivity)
    (Nat.mul_pos positive (by positivity)) (by positivity)
    (by rw [scaled_value (by decide), scaled_value (by decide)]; push_cast; exact exact :
      ((d * 10 ^ k.toNat : Nat) : ℚ) / ((10 ^ (-k).toNat : Nat) : ℚ) =
        ((f.mant * 2 ^ f.exp.toNat : Nat) : ℚ) / ((2 ^ (-f.exp).toNat : Nat) : ℚ))]
  exact roundPositive_exact negative finite nonzero

/-! ## The shortest digits read back -/

/-- Trailing zeros moved into the exponent keep the value. -/
private theorem trimZeros_value : ∀ (fuel d : Nat) (k : Int), 0 < d →
    0 < (trimZeros fuel (d, k)).1 ∧
      ((trimZeros fuel (d, k)).1 : ℚ) * 10 ^ (trimZeros fuel (d, k)).2 = d * 10 ^ k
  | 0, _, _, pos => ⟨pos, rfl⟩
  | fuel + 1, d, k, pos => by
    unfold trimZeros
    split
    · rename_i zeros
      obtain ⟨pos', value⟩ := trimZeros_value fuel (d / 10) (k + 1) (by omega)
      refine ⟨pos', value.trans ?_⟩
      have whole : (d : ℚ) = 10 * (d / 10 : Nat) := by exact_mod_cast (Nat.mul_div_cancel' (by omega)).symm
      rw [whole, zpow_add_one₀ (by norm_num)]
      ring
    · exact ⟨pos, rfl⟩

private theorem readsBack_iff (f : Float64) (d : Nat) (k : Int) :
    readsBack f d k = true ↔ ofDecimal false d k = some { f with negative := false } := by
  simp [readsBack]

/-- A decimal that reads back as a nonzero float is not zero. -/
private theorem pos_of_ofDecimal {negative : Bool} {d : Nat} {k : Int} {g : Float64}
    (read : ofDecimal negative d k = some g) (nonzero : g.mant ≠ 0) : 0 < d := by
  by_contra zero
  rw [show d = 0 by omega] at read
  cases read
  exact nonzero rfl

/-- What the search returns reads back: at each precision it keeps a candidate only when it
reads back, and the nearer of two is one of them. -/
private theorem shortestSearch_readsBack (f : Float64) (num den : Nat) (top : Int) :
    ∀ fuel p d k, shortestSearch f num den top fuel p = some (d, k) → readsBack f d k = true
  | 0, _, _, _, found => by cases found
  | fuel + 1, p, d, k, found => by
    unfold shortestSearch at found
    dsimp only at found
    generalize top + 1 - (p : Int) = k₀ at found
    generalize num * 10 ^ (-k₀).toNat = a at found
    generalize den * 10 ^ k₀.toNat = b at found
    cases lower : readsBack f (a / b) k₀ <;> cases upper : readsBack f (a / b + 1) k₀ <;>
      simp only [lower, upper, Option.some.injEq, Prod.mk.injEq] at found
    · exact shortestSearch_readsBack f num den top fuel (p + 1) d k found
    · obtain ⟨rfl, rfl⟩ := found; exact upper
    · obtain ⟨rfl, rfl⟩ := found; exact lower
    · obtain ⟨rfl, rfl⟩ := found
      rcases roundHalfEven_cases a b with nearer | nearer <;> rw [nearer]
      · exact lower
      · exact upper

/-- The exact decimal of a float has its value. -/
private theorem exactDecimal_value (f : Float64) :
    (f.exactDecimal.1 : ℚ) * 10 ^ f.exactDecimal.2 = f.mant * 2 ^ f.exp := by
  unfold exactDecimal
  split
  · obtain ⟨n, exponent⟩ : ∃ n : Nat, f.exp = n := ⟨f.exp.toNat, by omega⟩
    simp [exponent]
  · obtain ⟨n, exponent⟩ : ∃ n : Nat, f.exp = -n := ⟨(-f.exp).toNat, by omega⟩
    simp only [exponent, neg_neg, Int.toNat_natCast, zpow_neg, zpow_natCast, Nat.cast_mul, Nat.cast_pow]
    rw [show (10 : ℚ) ^ n = 2 ^ n * 5 ^ n by rw [← mul_pow]; norm_num]
    field_simp
    ring

private theorem exactDecimal_pos {f : Float64} (nonzero : f.mant ≠ 0) : 0 < f.exactDecimal.1 := by
  unfold exactDecimal
  split <;> exact Nat.mul_pos (Nat.pos_of_ne_zero nonzero) (by positivity)

/-- The digits `ryuFtoaShortest` chooses for a finite nonzero float read back as that float,
with either sign. -/
theorem ofDecimal_shortest (negative : Bool) {f : Float64} (finite : f.IsFinite) (nonzero : f.mant ≠ 0) :
    0 < f.shortest.1 ∧ ofDecimal negative f.shortest.1 f.shortest.2 = some { f with negative } := by
  have positive := Nat.pos_of_ne_zero nonzero
  have trimmed : ∀ {d : Nat} {k : Int} (fuel : Nat), ofDecimal false d k = some { f with negative := false } →
      0 < (trimZeros fuel (d, k)).1 ∧
        ofDecimal negative (trimZeros fuel (d, k)).1 (trimZeros fuel (d, k)).2 = some { f with negative } := by
    intro d k fuel back
    have pos := pos_of_ofDecimal back nonzero
    obtain ⟨pos', value⟩ := trimZeros_value fuel d k pos
    refine ⟨pos', ?_⟩
    rw [ofDecimal_congr negative pos' pos value, ofDecimal_sign, back]
    rfl
  unfold shortest
  rw [if_neg nonzero]
  split_ifs with exactInt
  · obtain ⟨nonpos, divides⟩ := exactInt
    obtain ⟨n, exponent⟩ : ∃ n : Nat, f.exp = -n := ⟨(-f.exp).toNat, by omega⟩
    rw [exponent, neg_neg, Int.toNat_natCast] at divides ⊢
    refine trimmed 17 (ofDecimal_exact false finite nonzero
      (Nat.div_pos (Nat.le_of_dvd positive divides) (by positivity)) ?_)
    rw [exponent, Nat.cast_div divides (by positivity), zpow_neg, zpow_natCast]
    push_cast
    ring
  · dsimp only [ratio]
    split
    · rename_i decimal found
      exact trimmed 17 ((readsBack_iff f _ _).mp
        (shortestSearch_readsBack f _ _ _ _ _ decimal.1 decimal.2 found))
    · exact trimmed 400 (ofDecimal_exact false finite nonzero (exactDecimal_pos nonzero)
        (exactDecimal_value f))

/-! ## Whole numbers -/

/-- Trailing zeros moved into the exponent, in whole numbers. -/
private theorem trimZeros_shift : ∀ (fuel d : Nat) (k : Int),
    ∃ j : Nat, (trimZeros fuel (d, k)).2 = k + j ∧ d = (trimZeros fuel (d, k)).1 * 10 ^ j
  | 0, _, _ => ⟨0, by simp [trimZeros]⟩
  | fuel + 1, d, k => by
    unfold trimZeros
    split
    · obtain ⟨j, exponent, digits⟩ := trimZeros_shift fuel (d / 10) (k + 1)
      refine ⟨j + 1, by rw [exponent]; push_cast; ring, ?_⟩
      rw [pow_succ, ← mul_assoc, ← digits]
      omega
    · exact ⟨0, by simp⟩

/-- A whole number below `2 ^ 53` is a float: `ParseFloat` gives the float whose significand
is the number shifted up to 53 bits. -/
private theorem ofDecimal_whole (negative : Bool) {m : Nat} (pos : 0 < m) (small : m < 2 ^ 53) :
    ∃ g : Float64, ofDecimal negative m 0 = some g ∧ g.IsFinite ∧ g.exp ≤ 0 ∧
      g.mant = m * 2 ^ (-g.exp).toNat ∧ 1023 ≤ g.biasedExp ∧ g.biasedExp ≤ 1075 := by
  have low := Nat.pow_log_le_self 2 pos.ne'
  have high := Nat.lt_pow_succ_log_self (by decide : 1 < 2) m
  have bits := Nat.log_lt_of_lt_pow pos.ne' small
  set L := Nat.log 2 m
  have shiftedLow : 2 ^ 52 ≤ m * 2 ^ (52 - L) :=
    calc 2 ^ 52 = 2 ^ L * 2 ^ (52 - L) := by rw [← pow_add]; congr 1; omega
      _ ≤ m * 2 ^ (52 - L) := Nat.mul_le_mul_right _ low
  have shiftedHigh : m * 2 ^ (52 - L) < 2 ^ 53 :=
    calc m * 2 ^ (52 - L) < 2 ^ (L + 1) * 2 ^ (52 - L) := (Nat.mul_lt_mul_right (by positivity)).mpr high
      _ = 2 ^ 53 := by rw [← pow_add]; congr 1; omega
  let g : Float64 := ⟨negative, L + 1023, m * 2 ^ (52 - L) - 2 ^ 52, by omega, by omega⟩
  have exponent : g.exp = -((52 - L : Nat) : Int) := by
    show max ((L + 1023 : Nat) : Int) 1 - 1075 = _
    omega
  have mant : g.mant = m * 2 ^ (52 - L) := by
    show (if L + 1023 = 0 then m * 2 ^ (52 - L) - 2 ^ 52 else 2 ^ 52 + (m * 2 ^ (52 - L) - 2 ^ 52)) = _
    rw [if_neg (by omega)]
    omega
  have nonzero : g.mant ≠ 0 := by rw [mant]; positivity
  refine ⟨g, ofDecimal_exact negative (by show L + 1023 < 2047; omega) nonzero pos ?_, ?_, ?_, ?_, ?_, ?_⟩
  · rw [mant, exponent, zpow_neg, zpow_natCast]
    push_cast
    field_simp
  · show L + 1023 < 2047; omega
  · rw [exponent]; omega
  · rw [mant, exponent, neg_neg, Int.toNat_natCast]
  · show 1023 ≤ L + 1023; omega
  · show L + 1023 ≤ 1075; omega

/-- `fmtF` of the digits of `d` with the decimal point `j` places after them writes the digits
of `d * 10 ^ j` and no fraction. -/
private theorem fmtF_whole (negative : Bool) {d : Nat} (pos : 0 < d) (j : Nat) :
    fmtF negative (Nat.toDigits 10 d) ((Nat.toDigits 10 d).length + (j : Int)) =
      (if negative then ['-'] else []) ++ Nat.toDigits 10 (d * 10 ^ j) := by
  have nonempty : 0 < (Nat.toDigits 10 d).length := by
    obtain ⟨c, rest, first, -, -⟩ := Decimal.toDigits_head pos
    simp [first]
  have positive : (0 : Int) < (Nat.toDigits 10 d).length + (j : Int) := by omega
  have point : (((Nat.toDigits 10 d).length : Int) + (j : Int)).toNat = (Nat.toDigits 10 d).length + j := by
    omega
  have noZeros : (-(((Nat.toDigits 10 d).length : Int) + (j : Int))).toNat = 0 := by omega
  unfold fmtF
  dsimp only
  rw [if_pos positive, point, noZeros, List.take_of_length_le (by omega), Nat.add_sub_cancel_left,
    List.replicate_zero, List.nil_append, List.drop_eq_nil_of_le (by omega), if_pos rfl, List.append_nil,
    Decimal.toDigits_mul_pow pos]

/-- A whole number below `2 ^ 53`, read as a float, prints as the number: exact integers take
the fast path to all their digits, and `'f'` formatting, since they lie between `1e-6` and
`1e21`. -/
theorem jsonText_whole (n : Int) (small : n.natAbs < 2 ^ 53) :
    ∃ g, ofDecimal (decide (n < 0)) n.natAbs 0 = some g ∧ g.jsonText = .ok (toString n).data := by
  rcases Nat.eq_zero_or_pos n.natAbs with isZero | pos
  · rw [Int.natAbs_eq_zero.mp isZero]
    exact ⟨zero false, rfl, rfl⟩
  obtain ⟨g, read, finite, nonpos, mant, biasedLow, biasedHigh⟩ :=
    ofDecimal_whole (decide (n < 0)) pos small
  have sign : g.negative = decide (n < 0) := by
    rw [ofDecimal_sign] at read
    obtain ⟨g', -, rfl⟩ := Option.map_eq_some'.mp read
    rfl
  refine ⟨g, read, ?_⟩
  have nonzero : g.mant ≠ 0 := by rw [mant]; positivity
  have shortest : g.shortest = trimZeros 17 (n.natAbs, 0) := by
    unfold shortest
    rw [if_neg nonzero, if_pos ⟨nonpos, by rw [mant]; exact Nat.dvd_mul_left _ _⟩, mant,
      Nat.mul_div_cancel _ (by positivity)]
  obtain ⟨j, exponent, digits⟩ := trimZeros_shift 17 n.natAbs 0
  have trimmedPos : 0 < (trimZeros 17 (n.natAbs, 0)).1 := by
    rcases Nat.eq_zero_or_pos (trimZeros 17 (n.natAbs, 0)).1 with zero | pos'
    · rw [zero] at digits; omega
    · exact pos'
  have notSmall : ¬AbsLt g oneMillionth := by
    unfold AbsLt oneMillionth; dsimp only; omega
  have notLarge : AbsLt g tenPow21 := by
    unfold AbsLt tenPow21; dsimp only; omega
  unfold jsonText
  rw [if_neg (not_not.mpr finite), shortest]
  dsimp only
  rw [if_neg (by tauto), sign, exponent, zero_add]
  congr 1
  unfold digitChars
  rw [if_neg trimmedPos.ne', fmtF_whole _ trimmedPos, ← digits]
  rw [Decimal.toString_int_data]
  cases n with
  | ofNat m => simp
  | negSucc m => simp [Int.natAbs_negSucc, Int.negSucc_lt_zero]

end Float64

end EndpointAgent
