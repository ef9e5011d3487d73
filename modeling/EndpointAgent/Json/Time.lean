import EndpointAgent.Basic

/-!
# Timestamps in JSON

`time.Time` as `encoding/json` writes and reads it: `Time.MarshalJSON` formats RFC 3339 with
nanoseconds and refuses a year outside `[0,9999]` or a zone hour outside `[0,23]`;
`Time.UnmarshalJSON` takes the raw bytes between the quotes to `parseRFC3339`.

A `Time` is kept as what these read and write of it: the civil reading in its location and
that location's offset from UTC. Its monotonic clock reading and the location's name play no
part in either.
-/

set_option autoImplicit false

namespace EndpointAgent

/-- `isLeap`. -/
def isLeap (year : Int) : Bool := year % 4 = 0 && (year % 100 ≠ 0 || year % 400 = 0)

/-- `daysIn(month, year)`. -/
def daysIn (month : Nat) (year : Int) : Nat :=
  if month = 2 then (if isLeap year then 29 else 28)
  else if month = 4 ∨ month = 6 ∨ month = 9 ∨ month = 11 then 30
  else 31

/-- A `time.Time` by its civil reading in its location, and that location's offset in
seconds. Every field is in the range the `time` package keeps it in. -/
structure Time where
  year : Int
  month : Nat
  day : Nat
  hour : Nat
  minute : Nat
  second : Nat
  nanosecond : Nat
  offset : Int
  month_mem : 1 ≤ month ∧ month ≤ 12
  day_mem : 1 ≤ day ∧ day ≤ daysIn month year
  hour_lt : hour < 24
  minute_lt : minute < 60
  second_lt : second < 60
  nanosecond_lt : nanosecond < 1000000000
  deriving DecidableEq

namespace Time

/-- The zero `time.Time`: January 1 of year 1, 00:00:00 UTC. -/
def zero : Time := ⟨1, 1, 1, 0, 0, 0, 0, 0, by decide, by decide, by decide, by decide, by decide,
  by decide⟩

/-- `appendInt(b, x, width)`: a minus sign, zeros up to `width`, then the digits. -/
def appendInt (x : Int) (width : Nat) : List Char :=
  let digits := Nat.toDigits 10 x.natAbs
  (if x < 0 then ['-'] else []) ++ List.replicate (width - digits.length) '0' ++ digits

/-- `appendNano` with `stdFracSecond9`: nothing for a whole second, otherwise a point and
the nine digits without their trailing zeros. -/
def appendNano (nanosecond : Nat) : List Char :=
  if nanosecond = 0 then []
  else '.' :: ((appendInt nanosecond 9).reverse.dropWhile (· = '0')).reverse

/-- The zone of `appendFormatRFC3339`: `Z` for offset zero, otherwise the sign of the offset
in whole minutes (`offset / 60` truncates), hours and minutes. -/
def appendZone (offset : Int) : List Char :=
  if offset = 0 then ['Z']
  else
    let zone := offset.natAbs / 60
    (if offset < 0 ∧ zone ≠ 0 then '-' else '+') ::
      (appendInt (zone / 60) 2 ++ ':' :: appendInt (zone % 60) 2)

/-- `appendFormatRFC3339(b, true)`. -/
def formatRFC3339 (t : Time) : List Char :=
  appendInt t.year 4 ++ '-' :: appendInt t.month 2 ++ '-' :: appendInt t.day 2 ++
    'T' :: appendInt t.hour 2 ++ ':' :: appendInt t.minute 2 ++ ':' :: appendInt t.second 2 ++
    appendNano t.nanosecond ++ appendZone t.offset

/-- `Time.MarshalJSON`, with `appendStrictRFC3339`'s two checks: the year takes exactly four
digits, and the zone hour is two digits below 24. -/
def marshalJSON (t : Time) : Except GoError Bytes :=
  if ¬(0 ≤ t.year ∧ t.year ≤ 9999) then
    .error (GoError.new "Time.MarshalJSON: year outside of range [0,9999]")
  else if t.offset ≠ 0 ∧ 24 ≤ t.offset.natAbs / 60 / 60 then
    .error (GoError.new "Time.MarshalJSON: timezone hour outside of range [0,23]")
  else .ok (('"' :: formatRFC3339 t ++ ['"']).map ascii)

/-- The value of a decimal digit byte. -/
def digitValue? (b : UInt8) : Option Nat :=
  if 0x30 ≤ b.toNat ∧ b.toNat ≤ 0x39 then some (b.toNat - 0x30) else none

/-- `parseUint` of `parseRFC3339`: decimal digits whose value lies in `[lo, hi]`. -/
def parseUint (digits : Bytes) (lo hi : Nat) : Option Nat :=
  match digits.mapM digitValue? with
  | some values =>
    let x := values.foldl (fun acc d => 10 * acc + d) 0
    if lo ≤ x ∧ x ≤ hi then some x else none
  | none => none

/-- `parseNanoseconds` after a point and `n` digits: the first nine digits, scaled to
nanoseconds; later digits are dropped. -/
def parseNanoseconds (digits : Bytes) : Nat :=
  let kept := (digits.take 9).filterMap digitValue?
  kept.foldl (fun acc d => 10 * acc + d) 0 * 10 ^ (9 - kept.length)

/-- The optional fraction after the seconds, and what follows it. -/
def splitFraction (rest : Bytes) : Nat × Bytes :=
  match rest with
  | point :: d :: more =>
    if point = ascii '.' ∧ (digitValue? d).isSome then
      (parseNanoseconds (d :: more.takeWhile fun b => (digitValue? b).isSome),
        more.dropWhile fun b => (digitValue? b).isSome)
    else (0, rest)
  | _ => (0, rest)

/-- The zone of `parseRFC3339`: `Z`, or `±HH:MM` as an offset in seconds. -/
def parseZone (zone : Bytes) : Option Int :=
  if zone = [ascii 'Z'] then some 0
  else if zone.length ≠ 6 then none
  else
    match parseUint ((zone.drop 1).take 2) 0 23, parseUint ((zone.drop 4).take 2) 0 59 with
    | some hr, some mm =>
      if (zone[0]? = some (ascii '-') ∨ zone[0]? = some (ascii '+')) ∧ zone[3]? = some (ascii ':')
      then some (if zone[0]? = some (ascii '-') then -((hr * 60 + mm) * 60) else (hr * 60 + mm) * 60)
      else none
    | _, _ => none

/-- The time with these fields, when each is in its range. -/
def ofFields? (year : Int) (month day hour minute second nanosecond : Nat) (offset : Int) :
    Option Time :=
  if bounds : (1 ≤ month ∧ month ≤ 12) ∧ (1 ≤ day ∧ day ≤ daysIn month year) ∧ hour < 24 ∧
      minute < 60 ∧ second < 60 ∧ nanosecond < 1000000000 then
    some ⟨year, month, day, hour, minute, second, nanosecond, offset, bounds.1, bounds.2.1,
      bounds.2.2.1, bounds.2.2.2.1, bounds.2.2.2.2.1, bounds.2.2.2.2.2⟩
  else none

/-- `parseRFC3339`: `YYYY-MM-DDTHH:MM:SS`, an optional fraction, then `Z` or `±HH:MM`. -/
def parseRFC3339 (s : Bytes) : Option Time :=
  if s.length < 19 ∨ ¬(s[4]? = some (ascii '-') ∧ s[7]? = some (ascii '-') ∧
      s[10]? = some (ascii 'T') ∧ s[13]? = some (ascii ':') ∧ s[16]? = some (ascii ':')) then none
  else
    match parseUint (s.take 4) 0 9999, parseUint ((s.drop 5).take 2) 1 12 with
    | some year, some month =>
      match parseUint ((s.drop 8).take 2) 1 (daysIn month year), parseUint ((s.drop 11).take 2) 0 23,
        parseUint ((s.drop 14).take 2) 0 59, parseUint ((s.drop 17).take 2) 0 59,
        parseZone (splitFraction (s.drop 19)).2 with
      | some day, some hour, some minute, some second, some offset =>
        ofFields? year month day hour minute second (splitFraction (s.drop 19)).1 offset
      | _, _, _, _, _ => none
    | _, _ => none

/-- `Time.UnmarshalJSON` on the raw bytes of a JSON value: `null` leaves the time as it
was; otherwise the value must be quoted, and its inside must parse. -/
def unmarshalJSON (t : Time) (data : Bytes) : Except GoError Time :=
  if data = asciiBytes "null" then .ok t
  else if data.length < 2 ∨ data.head? ≠ some (ascii '"') ∨ data.getLast? ≠ some (ascii '"') then
    .error (GoError.new "Time.UnmarshalJSON: input is not a JSON string")
  else
    match parseRFC3339 ((data.drop 1).dropLast) with
    | some parsed => .ok parsed
    | none => .error (GoError.new "parsing time as RFC 3339")

end Time

end EndpointAgent
