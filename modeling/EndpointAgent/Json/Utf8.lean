import EndpointAgent.Basic

/-!
# UTF-8

`unicode/utf8` as `encoding/json` uses it. `encode` is `utf8.EncodeRune` over a text, and
`decode` reads bytes the way `utf8.DecodeRune` does: a byte that does not start a valid
sequence reads as U+FFFD and advances by one byte. The decoder's string unquoting, which
turns every invalid byte into U+FFFD, and its scanner, which refuses any non-ASCII byte
outside a string, both behave the same on the characters `decode` gives.
-/

set_option autoImplicit false

namespace EndpointAgent.Utf8

/-- `utf8.EncodeRune`: the bytes of one character. -/
def encodeChar (c : Char) : Bytes :=
  let v := c.toNat
  if v < 0x80 then [UInt8.ofNat v]
  else if v < 0x800 then [UInt8.ofNat (0xC0 + v / 64), UInt8.ofNat (0x80 + v % 64)]
  else if v < 0x10000 then
    [UInt8.ofNat (0xE0 + v / 4096), UInt8.ofNat (0x80 + v / 64 % 64), UInt8.ofNat (0x80 + v % 64)]
  else
    [UInt8.ofNat (0xF0 + v / 262144), UInt8.ofNat (0x80 + v / 4096 % 64),
      UInt8.ofNat (0x80 + v / 64 % 64), UInt8.ofNat (0x80 + v % 64)]

/-- The bytes of a text. -/
def encode (text : List Char) : Bytes := text.flatMap encodeChar

/-- A continuation byte: `10xxxxxx`. -/
def continuation (b : UInt8) : Prop := 0x80 ≤ b.toNat ∧ b.toNat ≤ 0xBF

instance (b : UInt8) : Decidable (continuation b) := inferInstanceAs (Decidable (_ ∧ _))

/-- `utf8.first` and `utf8.acceptRanges` for a leading byte of a multi-byte sequence: the
sequence length and the range its second byte must lie in. -/
def leadInfo (lead : Nat) : Option (Nat × Nat × Nat) :=
  if lead < 0xC2 then none
  else if lead < 0xE0 then some (2, 0x80, 0xBF)
  else if lead = 0xE0 then some (3, 0xA0, 0xBF)
  else if lead = 0xED then some (3, 0x80, 0x9F)
  else if lead < 0xF0 then some (3, 0x80, 0xBF)
  else if lead = 0xF0 then some (4, 0x90, 0xBF)
  else if lead < 0xF4 then some (4, 0x80, 0xBF)
  else if lead = 0xF4 then some (4, 0x80, 0x8F)
  else none

/-- U+FFFD, `utf8.RuneError`. -/
def runeError : Char := '�'

/-- `utf8.DecodeRune` on `b0 :: rest`: the character it reads, and the bytes after it. A byte
that does not start a valid sequence reads as `runeError` and is the only byte consumed. -/
def decodeRune (b0 : UInt8) (rest : Bytes) : Char × Bytes :=
  if b0.toNat < 0x80 then (Char.ofNat b0.toNat, rest)
  else
    match leadInfo b0.toNat, rest with
    | some (2, lo, hi), b1 :: rest' =>
      if lo ≤ b1.toNat ∧ b1.toNat ≤ hi then (Char.ofNat (b0.toNat % 32 * 64 + b1.toNat % 64), rest')
      else (runeError, rest)
    | some (3, lo, hi), b1 :: b2 :: rest' =>
      if lo ≤ b1.toNat ∧ b1.toNat ≤ hi ∧ continuation b2 then
        (Char.ofNat (b0.toNat % 16 * 4096 + b1.toNat % 64 * 64 + b2.toNat % 64), rest')
      else (runeError, rest)
    | some (4, lo, hi), b1 :: b2 :: b3 :: rest' =>
      if lo ≤ b1.toNat ∧ b1.toNat ≤ hi ∧ continuation b2 ∧ continuation b3 then
        (Char.ofNat (b0.toNat % 8 * 262144 + b1.toNat % 64 * 4096 + b2.toNat % 64 * 64 +
          b3.toNat % 64), rest')
      else (runeError, rest)
    | _, _ => (runeError, rest)

/-- The loop `for len(s) > 0 { r, size := utf8.DecodeRune(s); s = s[size:] }`, for at most
`fuel` characters. -/
def decodeWith : Nat → Bytes → List Char
  | 0, _ => []
  | _ + 1, [] => []
  | fuel + 1, b0 :: rest =>
    let read := decodeRune b0 rest
    read.1 :: decodeWith fuel read.2

/-- Bytes read character by character. Every character takes at least one byte, so the
length of the input is enough fuel. -/
def decode (bytes : Bytes) : List Char := decodeWith bytes.length bytes

private theorem decodeRune_length_le (b0 : UInt8) (rest : Bytes) :
    (decodeRune b0 rest).2.length ≤ rest.length := by
  unfold decodeRune
  split_ifs
  · exact le_rfl
  · split <;> (try split_ifs) <;> simp only [List.length_cons] <;> omega

/-- Any fuel at least the length of the input reads all of it. -/
private theorem decodeWith_of_length_le {n : Nat} {bytes : Bytes} (enough : bytes.length ≤ n) :
    decodeWith n bytes = decode bytes := by
  suffices ∀ m, bytes.length ≤ m → decodeWith n bytes = decodeWith m bytes from this _ le_rfl
  induction n generalizing bytes with
  | zero => intro m _; cases bytes <;> cases m <;> simp_all [decodeWith]
  | succ n ih =>
    intro m fits
    match bytes, m with
    | [], 0 | [], _ + 1 => simp [decodeWith]
    | b0 :: rest, 0 => simp at fits
    | b0 :: rest, m + 1 =>
      have shorter := decodeRune_length_le b0 rest
      simp only [List.length_cons] at enough fits
      simp only [decodeWith, ih (by omega : (decodeRune b0 rest).2.length ≤ n) m (by omega)]

private theorem decode_cons (b0 : UInt8) (rest : Bytes) :
    decode (b0 :: rest) = (decodeRune b0 rest).1 :: decode (decodeRune b0 rest).2 := by
  rw [decode, List.length_cons, decodeWith,
    decodeWith_of_length_le (le_trans (decodeRune_length_le b0 rest) (Nat.le_refl _))]

private theorem toNat_ofNat {n : Nat} (small : n < 256) : (UInt8.ofNat n).toNat = n :=
  UInt8.toNat_ofNat_of_lt small

private theorem char_bounds (c : Char) :
    c.toNat < 0xD800 ∨ (0xDFFF < c.toNat ∧ c.toNat < 0x110000) := c.valid

private theorem decodeRune_ascii {b : UInt8} (rest : Bytes) (ascii : b.toNat < 0x80) :
    decodeRune b rest = (Char.ofNat b.toNat, rest) := by
  unfold decodeRune; rw [if_pos ascii]

private theorem decodeRune_two {b0 b1 : UInt8} {lo hi : Nat} (rest : Bytes) (multi : ¬ b0.toNat < 0x80)
    (lead : leadInfo b0.toNat = some (2, lo, hi)) (second : lo ≤ b1.toNat ∧ b1.toNat ≤ hi) :
    decodeRune b0 (b1 :: rest) = (Char.ofNat (b0.toNat % 32 * 64 + b1.toNat % 64), rest) := by
  unfold decodeRune; simp only [if_neg multi, lead, if_pos second]

private theorem decodeRune_three {b0 b1 b2 : UInt8} {lo hi : Nat} (rest : Bytes) (multi : ¬ b0.toNat < 0x80)
    (lead : leadInfo b0.toNat = some (3, lo, hi))
    (tail : lo ≤ b1.toNat ∧ b1.toNat ≤ hi ∧ continuation b2) :
    decodeRune b0 (b1 :: b2 :: rest) =
      (Char.ofNat (b0.toNat % 16 * 4096 + b1.toNat % 64 * 64 + b2.toNat % 64), rest) := by
  unfold decodeRune; simp only [if_neg multi, lead, if_pos tail]

private theorem decodeRune_four {b0 b1 b2 b3 : UInt8} {lo hi : Nat} (rest : Bytes) (multi : ¬ b0.toNat < 0x80)
    (lead : leadInfo b0.toNat = some (4, lo, hi))
    (tail : lo ≤ b1.toNat ∧ b1.toNat ≤ hi ∧ continuation b2 ∧ continuation b3) :
    decodeRune b0 (b1 :: b2 :: b3 :: rest) =
      (Char.ofNat (b0.toNat % 8 * 262144 + b1.toNat % 64 * 4096 + b2.toNat % 64 * 64 +
        b3.toNat % 64), rest) := by
  unfold decodeRune; simp only [if_neg multi, lead, if_pos tail]

private theorem leadInfo_two {v : Nat} (low : 0x80 ≤ v) (high : v < 0x800) :
    leadInfo (0xC0 + v / 64) = some (2, 0x80, 0xBF) := by
  rw [leadInfo, if_neg (by omega), if_pos (by omega)]

private theorem leadInfo_three {v : Nat} (low : 0x800 ≤ v) (high : v < 0x10000)
    (surrogate : v < 0xD800 ∨ 0xDFFF < v) :
    ∃ lo hi, leadInfo (0xE0 + v / 4096) = some (3, lo, hi) ∧
      lo ≤ 0x80 + v / 64 % 64 ∧ 0x80 + v / 64 % 64 ≤ hi := by
  rw [leadInfo, if_neg (by omega), if_neg (by omega)]
  by_cases e0 : v < 0x1000
  · rw [if_pos (by omega)]; exact ⟨_, _, rfl, by omega⟩
  by_cases ed : v / 4096 = 13
  · rw [if_neg (by omega), if_pos (by omega)]; exact ⟨_, _, rfl, by omega⟩
  · rw [if_neg (by omega), if_neg (by omega), if_pos (by omega)]; exact ⟨_, _, rfl, by omega⟩

private theorem leadInfo_four {v : Nat} (low : 0x10000 ≤ v) (high : v < 0x110000) :
    ∃ lo hi, leadInfo (0xF0 + v / 262144) = some (4, lo, hi) ∧
      lo ≤ 0x80 + v / 4096 % 64 ∧ 0x80 + v / 4096 % 64 ≤ hi := by
  rw [leadInfo, if_neg (by omega), if_neg (by omega), if_neg (by omega), if_neg (by omega),
    if_neg (by omega)]
  by_cases f0 : v < 0x40000
  · rw [if_pos (by omega)]; exact ⟨_, _, rfl, by omega⟩
  rw [if_neg (by omega)]
  by_cases f4 : v < 0x100000
  · rw [if_pos (by omega)]; exact ⟨_, _, rfl, by omega⟩
  · rw [if_neg (by omega), if_pos (by omega)]; exact ⟨_, _, rfl, by omega⟩

private theorem continuation_ofNat (n : Nat) : continuation (UInt8.ofNat (0x80 + n % 64)) := by
  unfold continuation; rw [toNat_ofNat (by omega)]; omega

/-- `DecodeRune` reads back the character `EncodeRune` wrote, whatever follows it. -/
theorem decodeRune_encodeChar (c : Char) (rest : Bytes) :
    ∃ b0 tail, encodeChar c ++ rest = b0 :: tail ∧ decodeRune b0 tail = (c, rest) := by
  have bounds := char_bounds c
  conv => enter [1, b0, 1, tail, 2]; rw [← Char.ofNat_toNat c]
  unfold encodeChar
  generalize c.toNat = v at bounds ⊢
  have low : (UInt8.ofNat (0x80 + v % 64)).toNat = 0x80 + v % 64 := toNat_ofNat (by omega)
  have mid : (UInt8.ofNat (0x80 + v / 64 % 64)).toNat = 0x80 + v / 64 % 64 := toNat_ofNat (by omega)
  dsimp only
  split_ifs with one two three <;> simp only [List.cons_append, List.nil_append] <;>
    refine ⟨_, _, rfl, ?_⟩
  · rw [decodeRune_ascii _ (by rw [toNat_ofNat (by omega)]; omega), toNat_ofNat (by omega)]
  · have lead : (UInt8.ofNat (0xC0 + v / 64)).toNat = 0xC0 + v / 64 := toNat_ofNat (by omega)
    rw [decodeRune_two _ (by omega) (lead ▸ leadInfo_two (by omega) two) (by omega), lead, low]
    congr 2; omega
  · have lead : (UInt8.ofNat (0xE0 + v / 4096)).toNat = 0xE0 + v / 4096 := toNat_ofNat (by omega)
    obtain ⟨lo, hi, info, second⟩ := leadInfo_three (by omega) three (by omega)
    rw [decodeRune_three _ (by omega) (lead ▸ info)
        (by rw [mid]; exact ⟨second.1, second.2, continuation_ofNat v⟩), lead, mid, low]
    congr 2; omega
  · have lead : (UInt8.ofNat (0xF0 + v / 262144)).toNat = 0xF0 + v / 262144 := toNat_ofNat (by omega)
    have high : (UInt8.ofNat (0x80 + v / 4096 % 64)).toNat = 0x80 + v / 4096 % 64 :=
      toNat_ofNat (by omega)
    obtain ⟨lo, hi, info, second⟩ := leadInfo_four (by omega : 0x10000 ≤ v) (by omega)
    rw [decodeRune_four _ (by omega) (lead ▸ info)
        (by rw [high]; exact ⟨second.1, second.2, continuation_ofNat _, continuation_ofNat v⟩),
      lead, high, mid, low]
    congr 2; omega

private theorem decode_encodeChar (c : Char) (rest : Bytes) :
    decode (encodeChar c ++ rest) = c :: decode rest := by
  obtain ⟨b0, tail, split, read⟩ := decodeRune_encodeChar c rest
  rw [split, decode_cons, read]

/-- UTF-8 decoding reads back what encoding wrote. -/
theorem decode_encode (text : List Char) : decode (encode text) = text := by
  induction text with
  | nil => rfl
  | cons c rest ih => rw [encode, List.flatMap_cons, decode_encodeChar, ← encode, ih]

example : decode [0x41, 0xC3, 0xA9, 0xFF, 0xE2, 0x82] = ['A', 'é', runeError, runeError, runeError] := by
  decide

end EndpointAgent.Utf8
