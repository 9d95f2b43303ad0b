import Mathlib.Data.List.Basic
import Tubo.Go.Basics

/-!
# Package `time`

A `time.Time` is an instant, measured in nanoseconds from the beginning of the
year 1 (UTC), together with the zone offset it is displayed in.  The zero value
of `time.Time` is that origin.  A `time.Duration` is a number of nanoseconds.
-/

namespace Tubo

/-- A `time.Duration` in nanoseconds. -/
abbrev Duration := ℤ

def second : Duration := 1000000000
def minute : Duration := 60 * second

/-- A `time.Time`: an instant and the offset east of UTC, in seconds, it is
displayed in. -/
structure Time where
  instant : ℤ
  offset : ℤ
  deriving DecidableEq, Repr

namespace Time

/-- The zero value. -/
def zero : Time := ⟨0, 0⟩

/-- `IsZero`. -/
def isZero (t : Time) : Bool := t.instant == 0

/-- `After`. -/
def after (t u : Time) : Bool := decide (u.instant < t.instant)

/-- `Equal`: the same instant, in any zone. -/
def equal (t u : Time) : Bool := t.instant == u.instant

/-- `UTC`. -/
def utc (t : Time) : Time := ⟨t.instant, 0⟩

/-- `Add`. -/
def add (t : Time) (d : Duration) : Time := ⟨t.instant + d, t.offset⟩

/-- `Sub`, which saturates at the bounds of an `int64`. -/
def sub (t u : Time) : Duration :=
  max (-(2 ^ 63)) (min (2 ^ 63 - 1) (t.instant - u.instant))

@[simp]
theorem utc_instant (t : Time) : t.utc.instant = t.instant := rfl

@[simp]
theorem add_instant (t : Time) (d : Duration) : (t.add d).instant = t.instant + d := rfl

theorem after_iff (t u : Time) : t.after u = true ↔ u.instant < t.instant := by
  simp [after]

/-! ## `Format(time.RFC3339Nano)` -/

/-- The decimal digits of a number, with leading zeros up to a width. -/
def padded (width : ℕ) (value : ℕ) : GoString :=
  let digits := (Nat.toDigits 10 value).map fun digit =>
    UInt8.ofNat digit.toNat
  List.replicate (width - digits.length) 0x30 ++ digits

/-- The proleptic Gregorian date of a number of days since 1 January of the
year 1, counted in eras of 400 years that begin on 1 March. -/
def civil (days : ℤ) : ℤ × ℕ × ℕ :=
  let shifted := days + 306
  let era := shifted / 146097
  let dayOfEra := (shifted % 146097).toNat
  let yearOfEra :=
    (dayOfEra - dayOfEra / 1460 + dayOfEra / 36524 - dayOfEra / 146096) / 365
  let dayOfYear := dayOfEra - (365 * yearOfEra + yearOfEra / 4 - yearOfEra / 100)
  let shiftedMonth := (5 * dayOfYear + 2) / 153
  let day := dayOfYear - (153 * shiftedMonth + 2) / 5 + 1
  let month := if shiftedMonth < 10 then shiftedMonth + 3 else shiftedMonth - 9
  let year : ℤ := yearOfEra + era * 400
  (if month ≤ 2 then year + 1 else year, month, day)

/-- The fractional seconds of `RFC3339Nano`: nine digits without trailing
zeros, and nothing at all on a whole second. -/
def fraction (nanoseconds : ℕ) : GoString :=
  let digits := ((padded 9 nanoseconds).reverse.dropWhile (· = 0x30)).reverse
  if digits = [] then [] else str "." ++ digits

/-- The zone of `RFC3339Nano`. -/
def zone (offset : ℤ) : GoString :=
  if offset = 0 then str "Z"
  else
    let minutes := offset.natAbs / 60
    (if offset < 0 then str "-" else str "+") ++ padded 2 (minutes / 60) ++
      str ":" ++ padded 2 (minutes % 60)

/-- `Format(time.RFC3339Nano)`. -/
def formatRFC3339Nano (t : Time) : GoString :=
  let seconds := t.instant / second + t.offset
  let ofDay := (seconds % 86400).toNat
  let (year, month, day) := civil (seconds / 86400)
  (if year < 0 then str "-" else []) ++ padded 4 year.natAbs ++ str "-" ++
    padded 2 month ++ str "-" ++ padded 2 day ++ str "T" ++
    padded 2 (ofDay / 3600) ++ str ":" ++ padded 2 (ofDay / 60 % 60) ++
    str ":" ++ padded 2 (ofDay % 60) ++
    fraction (t.instant % second).toNat ++ zone t.offset

end Time

/-- `strconv.Itoa`. -/
def itoa (value : ℤ) : GoString :=
  (if value < 0 then str "-" else []) ++ Time.padded 1 value.natAbs

end Tubo
