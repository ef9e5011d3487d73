import EndpointAgent.Basic

/-!
# float64 in JSON

The two `strconv` conversions `encoding/json` makes for a `float64`: `ParseFloat(s, 64)`
when it decodes a number into an `interface{}`, and `AppendFloat(b, f, 'f' or 'e', -1, 64)`
when it encodes one. A `float64` is kept as its IEEE 754 fields.

`ParseFloat` returns the float nearest to the decimal value, ties to even, and reports a
range error past the largest finite value; `roundPositive` computes that on the exact
value `num / den`. The shortest formatting is the one `strconv` documents: the fewest
significant digits that `ParseFloat` reads back as the same float, the closest of them to
the float's value, ties to an even last digit; exact integers below `2^53` take
`ryuFtoaShortest`'s fast path and print all their digits.
-/

set_option autoImplicit false

namespace EndpointAgent

/-- A `float64` by its IEEE 754 binary64 fields: the sign bit, the biased exponent (2047 for
the infinities and NaN) and the 52 fraction bits. -/
structure Float64 where
  negative : Bool
  biasedExp : Nat
  fraction : Nat
  biasedExp_le : biasedExp ≤ 2047
  fraction_lt : fraction < 2 ^ 52
  deriving DecidableEq

namespace Float64

/-- Neither an infinity nor NaN. -/
def IsFinite (f : Float64) : Prop := f.biasedExp < 2047

instance (f : Float64) : Decidable f.IsFinite := inferInstanceAs (Decidable (_ < _))

/-- The significand as an integer: the implicit leading bit is there unless the float is
subnormal. -/
def mant (f : Float64) : Nat := if f.biasedExp = 0 then f.fraction else 2 ^ 52 + f.fraction

/-- The binary exponent of the last significand bit: a finite float is `± mant * 2 ^ exp`. -/
def exp (f : Float64) : Int := max f.biasedExp 1 - 1075

/-- `±0`. -/
def zero (negative : Bool) : Float64 := ⟨negative, 0, 0, by decide, by decide⟩

/-- The float with the other sign bit. -/
def neg (f : Float64) : Float64 := { f with negative := !f.negative }

/-- The exact value of a finite float. -/
def toRat (f : Float64) : ℚ := (if f.negative then -1 else 1) * f.mant * (2 : ℚ) ^ f.exp

/-! ## Rounding a rational to the nearest float -/

/-- The number of base-`base` digits of `n` (0 for 0), with `fuel` steps. -/
def digitLengthAux (base : Nat) : Nat → Nat → Nat
  | 0, _ => 0
  | fuel + 1, n => if n = 0 then 0 else digitLengthAux base fuel (n / base) + 1

/-- The number of base-`base` digits of `n` (`bits.Len` for base 2). -/
def digitLength (base n : Nat) : Nat := digitLengthAux base n n

/-- `num / den ≥ base ^ e`, in whole numbers. -/
def AtLeastPow (base num den : Nat) (e : Int) : Prop :=
  den * base ^ e.toNat ≤ num * base ^ (-e).toNat

instance (base num den : Nat) (e : Int) : Decidable (AtLeastPow base num den e) :=
  inferInstanceAs (Decidable (_ ≤ _))

/-- `⌊log_base (num / den)⌋` for positive `num` and `den`: the digit counts give it up to
one. -/
def floorLog (base num den : Nat) : Int :=
  let guess : Int := digitLength base num - digitLength base den
  if AtLeastPow base num den guess then guess else guess - 1

/-- `num / den` rounded to a whole number, ties to even. -/
def roundHalfEven (num den : Nat) : Nat :=
  let q := num / den
  let r := num % den
  if 2 * r < den then q else if den < 2 * r then q + 1 else q + q % 2

/-- The float of sign `negative` with significand `m ≤ 2 ^ 53` and exponent `q`, where a
significand below `2 ^ 52` only comes with the least exponent `-1074`; `none` past the
largest finite float. -/
def pack (negative : Bool) (m : Nat) (q : Int) : Option Float64 :=
  if small : m < 2 ^ 52 then some ⟨negative, 0, m, by omega, small⟩
  else if normal : m < 2 ^ 53 then
    if fits : q + 1075 < 2047 then some ⟨negative, (q + 1075).toNat, m - 2 ^ 52, by omega, by omega⟩
    else none
  else if fits : q + 1076 < 2047 then some ⟨negative, (q + 1076).toNat, 0, by omega, by decide⟩
  else none

/-- The float nearest to `num / den`, for `0 < num` and `0 < den`: the exponent keeps 53
significant bits where it can and is never below `-1074`. -/
def roundPositive (negative : Bool) (num den : Nat) : Option Float64 :=
  let q := max (floorLog 2 num den) (-1022) - 52
  pack negative (roundHalfEven (num * 2 ^ (-q).toNat) (den * 2 ^ q.toNat)) q

/-- `strconv.ParseFloat(s, 64)` on the decimal `± digits * 10 ^ exp10`: `none` is the range
error of a value past the largest float. Values that are far out of range are decided from
their length, as `strconv` decides them, before the exact value is built. -/
def ofDecimal (negative : Bool) (digits : Nat) (exp10 : Int) : Option Float64 :=
  if digits = 0 then some (zero negative)
  else if 310 < digitLength 10 digits + exp10 then none
  else if digitLength 10 digits + exp10 < -330 then some (zero negative)
  else roundPositive negative (digits * 10 ^ exp10.toNat) (10 ^ (-exp10).toNat)

/-! ## Shortest decimal digits -/

/-- The exact value of a finite float as `num / den`. -/
def ratio (f : Float64) : Nat × Nat := (f.mant * 2 ^ f.exp.toNat, 2 ^ (-f.exp).toNat)

/-- Trailing zero digits moved into the exponent. -/
def trimZeros : Nat → Nat × Int → Nat × Int
  | 0, decimal => decimal
  | fuel + 1, (d, k) => if d ≠ 0 ∧ d % 10 = 0 then trimZeros fuel (d / 10, k + 1) else (d, k)

/-- Whether `d * 10 ^ k` reads back as the float `f` (of either sign, taken positive). -/
def readsBack (f : Float64) (d : Nat) (k : Int) : Bool :=
  ofDecimal false d k == some { f with negative := false }

/-- The search over precisions `p, p + 1, …`: at precision `p` the two `p`-digit decimals
around the value are `lo * 10 ^ k` and `(lo + 1) * 10 ^ k`; the first precision where one
of them reads back gives the result, the nearer one if both do. -/
def shortestSearch (f : Float64) (num den : Nat) (top : Int) : Nat → Nat → Option (Nat × Int)
  | 0, _ => none
  | fuel + 1, p =>
    let k : Int := top + 1 - p
    let a := num * 10 ^ (-k).toNat
    let b := den * 10 ^ k.toNat
    let lo := a / b
    match readsBack f lo k, readsBack f (lo + 1) k with
    | true, true => some (roundHalfEven a b, k)
    | true, false => some (lo, k)
    | false, true => some (lo + 1, k)
    | false, false => shortestSearch f num den top fuel (p + 1)

/-- The exact decimal value of a float: `mant * 2 ^ exp` with `2 ^ -n = 5 ^ n * 10 ^ -n`. -/
def exactDecimal (f : Float64) : Nat × Int :=
  if 0 ≤ f.exp then (f.mant * 2 ^ f.exp.toNat, 0) else (f.mant * 5 ^ (-f.exp).toNat, f.exp)

/-- `ryuFtoaShortest` for a finite float: digits `d` without trailing zeros and exponent `k`
with value `d * 10 ^ k`. Zero has no digits; an exact integer below `2 ^ 53` prints as
itself; otherwise the shortest search, which succeeds within 17 digits. -/
def shortest (f : Float64) : Nat × Int :=
  if f.mant = 0 then (0, 0)
  else if f.exp ≤ 0 ∧ 2 ^ (-f.exp).toNat ∣ f.mant then
    trimZeros 17 (f.mant / 2 ^ (-f.exp).toNat, 0)
  else
    let (num, den) := f.ratio
    match shortestSearch f num den (floorLog 10 num den) 17 1 with
    | some decimal => trimZeros 17 decimal
    | none => trimZeros 400 f.exactDecimal

/-! ## Text -/

/-- The decimal digits of `d`; none for zero, as `strconv`'s digit buffer has none. -/
def digitChars (d : Nat) : List Char := if d = 0 then [] else Nat.toDigits 10 d

/-- `fmtF` with the shortest precision `max(nd - dp, 0)`: the integer part padded with
zeros up to the decimal point, then the digits after it, the first `-dp` of them zeros. -/
def fmtF (negative : Bool) (digits : List Char) (dp : Int) : List Char :=
  let sign := if negative then ['-'] else []
  let whole := if 0 < dp then digits.take dp.toNat ++ List.replicate (dp.toNat - digits.length) '0'
    else ['0']
  let fraction := List.replicate (-dp).toNat '0' ++ digits.drop dp.toNat
  sign ++ whole ++ if fraction = [] then [] else '.' :: fraction

/-- The exponent of `fmtE`: a sign and at least two digits. -/
def exponentChars (exp : Int) : List Char :=
  let sign := if exp < 0 then '-' else '+'
  let n := exp.natAbs
  sign :: if n < 10 then ['0', Nat.digitChar n] else Nat.toDigits 10 n

/-- `fmtE` with the shortest precision `nd - 1`: one digit, the others after a point, then
`e` and the exponent `dp - 1`. -/
def fmtE (negative : Bool) (digits : List Char) (dp : Int) : List Char :=
  let sign := if negative then ['-'] else []
  let first := digits.headD '0'
  let rest := if digits.length ≤ 1 then [] else '.' :: digits.tail
  let exp := if digits = [] then 0 else dp - 1
  sign ++ first :: rest ++ 'e' :: exponentChars exp

/-- The clean-up `floatEncoder` makes after `'e'` formatting: `e-07` becomes `e-7`. -/
def dropExponentZero (text : List Char) : List Char :=
  match text.reverse with
  | d :: '0' :: '-' :: 'e' :: before => (d :: '-' :: 'e' :: before).reverse
  | _ => text

/-- `float64(1e-6)`. -/
def oneMillionth : Float64 := ⟨false, 1003, 218766855499149, by decide, by decide⟩

/-- `float64(1e21)`, which is exactly `10 ^ 21`. -/
def tenPow21 : Float64 := ⟨false, 1092, 3125794903879504, by decide, by decide⟩

/-- `|f| < |g|` for finite floats: the order of their exponent and fraction fields. -/
def AbsLt (f g : Float64) : Prop :=
  f.biasedExp < g.biasedExp ∨ (f.biasedExp = g.biasedExp ∧ f.fraction < g.fraction)

instance (f g : Float64) : Decidable (AbsLt f g) := inferInstanceAs (Decidable (_ ∨ _))

/-- `floatEncoder` with `bits = 64`: the error `json: unsupported value` for the infinities
and NaN; otherwise `'e'` formatting below `1e-6` and from `1e21` on, `'f'` formatting else. -/
def jsonText (f : Float64) : Except GoError (List Char) :=
  if ¬f.IsFinite then
    .error (GoError.new ("json: unsupported value: " ++
      if f.fraction ≠ 0 then "NaN" else if f.negative then "-Inf" else "+Inf"))
  else
    let (d, k) := f.shortest
    let digits := digitChars d
    let dp := digits.length + k
    if f.mant ≠ 0 ∧ (AbsLt f oneMillionth ∨ ¬AbsLt f tenPow21) then
      .ok (dropExponentZero (fmtE f.negative digits dp))
    else .ok (fmtF f.negative digits dp)

end Float64

end EndpointAgent
