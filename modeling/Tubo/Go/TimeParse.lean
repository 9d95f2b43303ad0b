import Tubo.Go.Json

/-!
# Package `time`: JSON

`MarshalJSON` and `UnmarshalJSON` of a time.  The decoder takes the fast path
`parseRFC3339`; the texts that this refuses go to the general `Parse`, which is a
parameter.

* `parseRFC3339_text` — the text of a UTC time that can be marshalled is read back.
-/

namespace Tubo.Time

/-! ## Writing -/

/-- The check of `appendStrictRFC3339` on the zone. -/
def strictZone (text : Bytes) : Bool :=
  let size := text.length
  text.getD (size - 1) 0 == 0x5A ||
    !(Json.isDigit (text.getD (size - 6) 0) ||
      24 ≤ Json.decimalValue ((text.drop (size - 5)).take 2))

/-- The text that `MarshalJSON` puts between quotes. -/
def marshalText (t : Time) : Except GoError Bytes := do
  let text := t.formatRFC3339Nano
  failIf (text.getD 4 0 ≠ 0x2D) (errorsNew "Time.MarshalJSON: year outside of range [0,9999]")
  failIf (strictZone text = false)
    (errorsNew "Time.MarshalJSON: timezone hour outside of range [0,23]")
  return text

/-! ## Reading -/

/-- `isLeap`. -/
def isLeap (year : ℤ) : Bool :=
  year % 4 == 0 && (year % 100 != 0 || year % 400 == 0)

/-- `daysIn`. -/
def daysIn (month : ℕ) (year : ℤ) : ℕ :=
  if month = 2 then (if isLeap year then 29 else 28)
  else if month ∈ [4, 6, 9, 11] then 30 else 31

/-- The days of a year before a month. -/
def daysBefore (month : ℕ) (year : ℤ) : ℕ :=
  [0, 31, 59, 90, 120, 151, 181, 212, 243, 273, 304, 334].getD (month - 1) 0 +
    if isLeap year ∧ 2 < month then 1 else 0

/-- The days from 1 January of the year 1 to 1 January of a year. -/
def daysBeforeYear (year : ℤ) : ℤ :=
  let passed := year - 1
  365 * passed + passed / 4 - passed / 100 + passed / 400

/-- `Date(…, UTC)`, for fields in their ranges. -/
def date (year : ℤ) (month day hour minute second nanosecond : ℕ) : Time :=
  let days := daysBeforeYear year + daysBefore month year + (day - 1)
  ⟨((days * 86400 + hour * 3600 + minute * 60 + second) * Tubo.second) + nanosecond, 0⟩

/-- `parseUint` in `parseRFC3339`. -/
def parseField (text : Bytes) (least greatest : ℕ) : Option ℕ :=
  let value := Json.decimalValue text
  if text.all Json.isDigit ∧ least ≤ value ∧ value ≤ greatest then some value else none

/-- `parseNanoseconds`, on the digits after the period. -/
def parseNanoseconds (digits : Bytes) : ℕ :=
  let kept := digits.take 9
  Json.decimalValue kept * 10 ^ (9 - kept.length)

/-- The fraction in `parseRFC3339`, with what follows. -/
def parseFraction (text : Bytes) : ℕ × Bytes :=
  match text with
  | period :: digit :: _ =>
    if period = 0x2E ∧ Json.isDigit digit then
      (parseNanoseconds ((text.drop 1).takeWhile Json.isDigit),
        (text.drop 1).dropWhile Json.isDigit)
    else (0, text)
  | _ => (0, text)

/-- The zone in `parseRFC3339`: the offset in seconds. -/
def parseZone (text : Bytes) : Option ℤ :=
  if text = [0x5A] then some 0
  else if text.length ≠ 6 then none
  else do
    let hours ← parseField ((text.drop 1).take 2) 0 23
    let minutes ← parseField ((text.drop 4).take 2) 0 59
    let sign := text.getD 0 0
    if (sign = 0x2D ∨ sign = 0x2B) ∧ text.getD 3 0 = 0x3A then
      let offset : ℤ := (hours * 60 + minutes) * 60
      return if sign = 0x2D then -offset else offset
    else none

/-- `parseRFC3339`. -/
def parseRFC3339 (text : Bytes) : Option Time :=
  if text.length < 19 then none
  else do
    let year ← parseField (text.take 4) 0 9999
    let month ← parseField ((text.drop 5).take 2) 1 12
    let day ← parseField ((text.drop 8).take 2) 1 (daysIn month year)
    let hour ← parseField ((text.drop 11).take 2) 0 23
    let minute ← parseField ((text.drop 14).take 2) 0 59
    let second ← parseField ((text.drop 17).take 2) 0 59
    if text.getD 4 0 = 0x2D ∧ text.getD 7 0 = 0x2D ∧ text.getD 10 0 = 0x54 ∧
        text.getD 13 0 = 0x3A ∧ text.getD 16 0 = 0x3A then
      let (nanosecond, zone) := parseFraction (text.drop 19)
      let offset ← parseZone zone
      let t := date year month day hour minute second nanosecond
      return ⟨t.instant - offset * Tubo.second, offset⟩
    else none

/-- `UnmarshalJSON` on the text between the quotes. -/
def unmarshalText (parse : Bytes → Option Time) (text : Bytes) : Option Time :=
  match parseRFC3339 text with
  | some t => some t
  | none => parse text

/-! ## Dates are read back -/

theorem isLeap_iff (year : ℤ) :
    isLeap year = true ↔ year % 4 = 0 ∧ (year % 100 ≠ 0 ∨ year % 400 = 0) := by
  simp [isLeap]

theorem daysBeforeYear_era (year : ℕ) (era : ℤ) (bound : year < 400) :
    daysBeforeYear (year + era * 400 + 1) = era * 146097 + 365 * year + year / 4 - year / 100 := by
  unfold daysBeforeYear
  dsimp only
  omega

theorem daysBeforeYear_succ (year : ℤ) : daysBeforeYear (year + 1) =
      daysBeforeYear year + 365 + if isLeap year then 1 else 0 := by
  have leap := isLeap_iff year
  unfold daysBeforeYear
  grind

/-- The days of a year before a month, from the month counted from March. -/
theorem daysBefore_march {month : ℕ} (bound : month < 10) (year : ℤ) :
    (daysBefore (month + 3) year : ℤ) =
      (153 * month + 2) / 5 + 59 + if isLeap year then 1 else 0 := by
  have table : [0, 31, 59, 90, 120, 151, 181, 212, 243, 273, 304, 334].getD
      (month + 3 - 1) 0 = (153 * month + 2) / 5 + 59 := by
    revert month
    decide
  grind [daysBefore]

/-- **Dates are read back**: the days of a date, counted from 1 January of the year
1. -/
theorem civil_days (days : ℤ) :
    daysBeforeYear (civil days).1 + daysBefore (civil days).2.1 (civil days).1 +
      ((civil days).2.2 - 1) = days := by
  have dayBound : ((days + 306) % 146097).toNat < 146097 := by omega
  have whole : days + 306 = (days + 306) / 146097 * 146097 +
      ((days + 306) % 146097).toNat := by omega
  rw [civil_eq]
  dsimp only
  generalize (days + 306) / 146097 = era at *
  generalize ((days + 306) % 146097).toNat = day at *
  have yearBound := yearOfEra_lt dayBound
  have start := (yearStart_le dayBound).1
  have monthBound := monthOfYear_lt dayBound
  have isDay : dayOfMonth day = day - yearStart (yearOfEra day) -
    (153 * monthOfYear day + 2) / 5 + 1 := rfl
  have isMonth : monthOfYear day = (5 * (day - yearStart (yearOfEra day)) + 2) / 153 := rfl
  have isStart : yearStart (yearOfEra day) =
    365 * yearOfEra day + yearOfEra day / 4 - yearOfEra day / 100 := rfl
  have era_eq := daysBeforeYear_era (yearOfEra day) era yearBound
  generalize yearStart (yearOfEra day) = yearDay at *
  generalize yearOfEra day = year at *
  generalize monthOfYear day = month at *
  generalize dayOfMonth day = dayInMonth at *
  by_cases early : month < 10
  · -- from March on the leap day of the year has passed
    have leap := daysBeforeYear_succ (year + era * 400)
    rw [if_pos early, if_neg (by omega), daysBefore_march early]
    omega
  · have isJanuary : month = 10 ∨ month = 11 := by omega
    rw [if_neg early, if_pos (by omega), era_eq]
    have noLeap : (daysBefore (month - 9) (year + era * 400 + 1) : ℤ) = 31 * (month - 10) := by
      rcases isJanuary with rfl | rfl <;> simp [daysBefore]
    grind

/-- The last day of February, from the day of a year that begins in March. -/
theorem february_le {day : ℕ} (bound : day < 146097) (late : monthOfYear day = 11)
    (era : ℤ) : dayOfMonth day ≤ daysIn 2 (yearOfEra day + era * 400 + 1) := by
  have leap := isLeap_iff (yearOfEra day + era * 400 + 1)
  have yearBound := yearOfEra_lt bound
  have isDay : dayOfMonth day = day - yearStart (yearOfEra day) -
    (153 * monthOfYear day + 2) / 5 + 1 := rfl
  have ends : day < yearStart (yearOfEra day + 1) ∨ yearOfEra day = 399 := by
    have next : ∀ year : Fin 399, yearStart (year + 1) < 146097 ∧
        year < yearOfEra (yearStart (year + 1)) := by decide +kernel
    by_contra later
    rw [not_or, Nat.not_lt] at later
    have after := next ⟨yearOfEra day, by omega⟩
    have mono := yearOfEra_mono later.1 bound
    simp only at after
    omega
  have isStart : yearStart (yearOfEra day) =
    365 * yearOfEra day + yearOfEra day / 4 - yearOfEra day / 100 := rfl
  have isNext : yearStart (yearOfEra day + 1) = 365 * (yearOfEra day + 1) +
    (yearOfEra day + 1) / 4 - (yearOfEra day + 1) / 100 := rfl
  rw [daysIn, if_pos rfl]
  split
  · have := (yearStart_le bound).2
    omega
  · rename_i notLeap
    rw [leap, not_and_or, not_or] at notLeap
    have inEra : (yearOfEra day + 1) % 4 ≠ 0 ∨
        (yearOfEra day + 1) % 100 = 0 ∧ (yearOfEra day + 1) % 400 ≠ 0 := by omega
    have length : yearStart (yearOfEra day + 1) = yearStart (yearOfEra day) + 365 := by
      omega
    omega

/-- The other months have 30 or 31 days in any year. -/
theorem daysIn_march {month : ℕ} (bound : month < 10) (year : ℤ) : daysIn (month + 3) year =
      (153 * (month + 1) + 2) / 5 - (153 * month + 2) / 5 := by
  grind [daysIn]

/-- The fields of a date lie in their ranges. -/
theorem civil_fields (days : ℤ) :
    1 ≤ (civil days).2.1 ∧ (civil days).2.1 ≤ 12 ∧ 1 ≤ (civil days).2.2 ∧
      (civil days).2.2 ≤ daysIn (civil days).2.1 (civil days).1 := by
  have dayBound : ((days + 306) % 146097).toNat < 146097 := by omega
  rw [civil_eq]
  dsimp only
  generalize (days + 306) / 146097 = era at *
  generalize ((days + 306) % 146097).toNat = day at *
  have monthBound := monthOfYear_lt dayBound
  obtain ⟨first, last⟩ := dayOfMonth_bounds day
  have isDay : dayOfMonth day = day - yearStart (yearOfEra day) -
    (153 * monthOfYear day + 2) / 5 + 1 := rfl
  have isMonth : monthOfYear day = (5 * (day - yearStart (yearOfEra day)) + 2) / 153 := rfl
  by_cases early : monthOfYear day < 10
  · rw [if_pos early, if_neg (by omega), daysIn_march early]
    omega
  · rw [if_neg early, if_pos (by omega)]
    refine ⟨by omega, by omega, first, ?_⟩
    rcases (show monthOfYear day = 10 ∨ monthOfYear day = 11 by omega) with
      january | february
    · rw [january]
      exact last
    · have ends := february_le dayBound february era
      rw [february]
      exact ends

/-! ## Numerals are read back -/

theorem decimalValue_append (digits more : Bytes) : Json.decimalValue (digits ++ more) =
      Json.decimalValue digits * 10 ^ more.length + Json.decimalValue more := by
  induction more using List.reverseRecOn with
  | nil => simp [Json.decimalValue]
  | append_singleton more byte ih =>
    have step : ∀ text : Bytes, Json.decimalValue (text ++ [byte]) =
        Json.decimalValue text * 10 + (byte.toNat - 0x30) := by
      intro text
      simp [Json.decimalValue]
    rw [← List.append_assoc, step, step, ih, List.length_append,
      List.length_singleton, pow_succ, Nat.add_mul, Nat.mul_assoc, Nat.add_assoc]

theorem padded_digits (width value : ℕ) :
    (∀ byte ∈ padded (width + 1) value, Json.isDigit byte = true) ∧
      Json.decimalValue (padded (width + 1) value) = value := by
  induction width generalizing value with
  | zero =>
    have decimal := Json.decimal_padded value
    exact ⟨decimal.isDigits, decimal.isValue⟩
  | succ width ih =>
    obtain ⟨areDigits, isValue⟩ := ih (value / 10)
    obtain ⟨isDigit, isLast⟩ := Json.digit_isDigit (value % 10) (by omega)
    rw [padded_succ]
    constructor
    · grind
    · grind [Json.decimalValue]

variable {width value : ℕ} {t : Time} {text : Bytes}

theorem padded_length_of_lt (bound : value < 10 ^ (width + 1)) :
    (padded (width + 1) value).length = width + 1 := by
  have numeral_length : ∀ width value, (numeral width value).length = width := by
    intro width
    induction width with
    | zero => intro _; rfl
    | succ width ih =>
      intro value
      rw [numeral, List.length_cons, ih]
  rw [padded_eq_numeral bound, numeral_length]

theorem padded_length_of_le (bound : 10 ^ (width + 1) ≤ value) :
    width + 1 < (padded (width + 1) value).length := by
  induction width generalizing value with
  | zero =>
    have present := (Json.decimal_padded (value / 10)).present
    grind [Json.padded_one_large, List.length_pos_of_ne_nil]
  | succ width ih =>
    grind [padded_succ]

theorem parseField_padded {least greatest : ℕ} (low : least ≤ value) (high : value ≤ greatest) :
    parseField (padded (width + 1) value) least greatest = some value := by
  grind [padded_digits, parseField]

theorem trimmed_value (bound : value < 10 ^ width) :
    (∀ byte ∈ trimmed width value, Json.isDigit byte = true) ∧
      (trimmed width value).length ≤ width ∧
      Json.decimalValue (trimmed width value) *
        10 ^ (width - (trimmed width value).length) = value := by
  induction width generalizing value with
  | zero =>
    grind [trimmed, Json.decimalValue]
  | succ width ih =>
    obtain ⟨areDigits, short, isValue⟩ :=
      ih (Nat.mod_lt value (show 0 < 10 ^ width by positivity))
    obtain ⟨isDigit, isFirst⟩ :=
      Json.digit_isDigit (value / 10 ^ width) (div_pow_lt bound)
    rw [trimmed]
    split
    · rename_i none
      simp [Json.decimalValue, none]
    · refine ⟨?_, ?_, ?_⟩
      · grind
      · rw [List.length_cons]
        omega
      · have whole := Nat.div_add_mod value (10 ^ width)
        have head : ∀ (byte : UInt8) (rest : Bytes), Json.decimalValue (byte :: rest) =
            (byte.toNat - 0x30) * 10 ^ rest.length + Json.decimalValue rest := by
          intro byte rest
          have split := decimalValue_append [byte] rest
          simpa [Json.decimalValue] using split
        rw [head, isFirst, List.length_cons, Nat.add_sub_add_right, Nat.add_mul,
          isValue, Nat.mul_assoc, ← pow_add, Nat.add_sub_of_le short, Nat.mul_comm]
        exact whole

theorem parseFraction_fraction {nanoseconds : ℕ} (bound : nanoseconds < 10 ^ 9) :
    parseFraction (fraction nanoseconds ++ [0x5A]) = (nanoseconds, [0x5A]) := by
  rw [fraction_eq bound]
  split
  · rename_i none
    rw [none]
    rfl
  · rename_i present
    obtain ⟨areDigits, short, isValue⟩ := trimmed_value bound
    obtain ⟨first, more, isTrimmed⟩ := List.exists_cons_of_ne_nil
      (mt (trimmed_eq_nil_iff bound).mp present)
    have isDigit := areDigits first (by simp [isTrimmed])
    have taken : (trimmed 9 nanoseconds ++ [0x5A]).takeWhile Json.isDigit =
        trimmed 9 nanoseconds := by
      rw [List.takeWhile_append_of_pos areDigits]
      exact List.append_nil _
    have dropped : (trimmed 9 nanoseconds ++ [0x5A]).dropWhile Json.isDigit = [0x5A] := by
      rw [List.dropWhile_append_of_pos areDigits]
      rfl
    have read : parseNanoseconds (trimmed 9 nanoseconds) = nanoseconds := by
      grind [List.take_of_length_le, parseNanoseconds]
    grind [parseFraction]

/-! ## Times are read back -/

theorem getD_digits {digits : Bytes} (areDigits : ∀ byte ∈ digits, Json.isDigit byte = true)
    {k : ℕ} (inside : k < digits.length) (rest : Bytes) : (digits ++ rest).getD k 0 ≠ 0x2D := by
  intro isDash
  rw [List.getD_eq_getElem?_getD, List.getElem?_append_left inside,
    List.getElem?_eq_getElem inside, Option.getD_some] at isDash
  have isDigit := areDigits _ (List.getElem_mem inside)
  rw [isDash] at isDigit
  exact absurd isDigit (by decide)

/-- A text begins with the year. -/
theorem formatRFC3339Nano_year (isUTC : t.offset = 0) : ∃ rest, t.formatRFC3339Nano =
      (if (civil (t.seconds / 86400)).1 < 0 then str "-" else []) ++
        (padded 4 (civil (t.seconds / 86400)).1.natAbs ++ rest) := by
  unfold formatRFC3339Nano seconds
  rw [isUTC]
  simp only [Int.add_zero, List.append_assoc]
  exact ⟨_, rfl⟩

/-- A year that `MarshalJSON` accepts has four digits. -/
theorem marshalText_eq_ok (isUTC : t.offset = 0) (written : t.marshalText = .ok text) :
    (0 ≤ (civil (t.seconds / 86400)).1 ∧ (civil (t.seconds / 86400)).1 < 10000) ∧
      text = dateText t.seconds ++ (fraction (t.instant % second).toNat ++ [0x5A]) := by
  simp only [marshalText, bind_eq_ok, failIf_eq_ok, ne_eq, Classical.not_not] at written
  obtain ⟨-, isDash, -, -, same⟩ := written
  obtain rfl := Except.ok.inj same
  have year : 0 ≤ (civil (t.seconds / 86400)).1 ∧ (civil (t.seconds / 86400)).1 < 10000 := by
    obtain ⟨rest, isText⟩ := formatRFC3339Nano_year isUTC
    generalize (civil (t.seconds / 86400)).1 = year at *
    have digits := (padded_digits 3 year.natAbs).1
    by_contra outside
    by_cases large : 10000 ≤ year.natAbs
    · have long := @padded_length_of_le 3 _ large
      rw [isText] at isDash
      split at isDash
      · exact getD_digits digits (k := 3) (by omega) rest isDash
      · exact getD_digits digits (k := 4) long rest isDash
    · have isNegative : year < 0 := by omega
      have long := @padded_length_of_lt 3 _ (Nat.not_le.mp large)
      rw [isText, if_pos isNegative] at isDash
      exact getD_digits digits (k := 3) (by omega) rest isDash
  exact ⟨year, formatRFC3339Nano_eq isUTC year.1⟩

/-- The fields of a text, which stand at fixed places. -/
theorem parseRFC3339_fields {year month day hour minute second rest zone : Bytes}
    {y m d h min sec nanosecond : ℕ} (yearSize : year.length = 4)
    (monthSize : month.length = 2) (daySize : day.length = 2) (hourSize : hour.length = 2)
    (minuteSize : minute.length = 2) (secondSize : second.length = 2)
    (isYear : parseField year 0 9999 = some y) (isMonth : parseField month 1 12 = some m)
    (isDay : parseField day 1 (daysIn m y) = some d) (isHour : parseField hour 0 23 = some h)
    (isMinute : parseField minute 0 59 = some min) (isSecond : parseField second 0 59 = some sec)
    (isFraction : parseFraction rest = (nanosecond, zone)) :
    parseRFC3339 (year ++ (str "-" ++ (month ++ (str "-" ++ (day ++ (str "T" ++ (hour ++
      (str ":" ++ (minute ++ (str ":" ++ (second ++ rest))))))))))) =
      (parseZone zone).map fun offset =>
        ⟨(date y m d h min sec nanosecond).instant - offset * Tubo.second, offset⟩ := by
  obtain ⟨y0, later, rfl⟩ := List.exists_cons_of_length_eq_add_one yearSize
  obtain ⟨y1, y2, y3, rfl⟩ := List.length_eq_three.mp (Nat.succ.inj yearSize)
  obtain ⟨m0, m1, rfl⟩ := List.length_eq_two.mp monthSize
  obtain ⟨d0, d1, rfl⟩ := List.length_eq_two.mp daySize
  obtain ⟨h0, h1, rfl⟩ := List.length_eq_two.mp hourSize
  obtain ⟨n0, n1, rfl⟩ := List.length_eq_two.mp minuteSize
  obtain ⟨s0, s1, rfl⟩ := List.length_eq_two.mp secondSize
  have separators : str "-" = [0x2D] ∧ str "T" = [0x54] ∧ str ":" = [0x3A] := by decide
  rw [separators.1, separators.2.1, separators.2.2]
  simp only [List.cons_append, List.nil_append, parseRFC3339, List.take_succ_cons,
    List.take_zero, List.drop_succ_cons, List.drop_zero, List.getD_cons_succ,
    List.getD_cons_zero, List.length_cons, isYear, isMonth, isHour, isMinute,
    isSecond, isFraction, Option.bind_eq_bind, Option.bind_some, isDay]
  rw [if_neg (by omega), if_pos (by decide)]
  cases parseZone zone <;> rfl

/-- **Times are read back**: the text that `MarshalJSON` gives for a UTC time. -/
theorem parseRFC3339_text (isUTC : t.offset = 0)
    (written : t.marshalText = .ok text) : parseRFC3339 text = some t := by
  obtain ⟨⟨low, high⟩, rfl⟩ := marshalText_eq_ok isUTC written
  obtain ⟨firstMonth, lastMonth, firstDay, lastDay⟩ := civil_fields (t.seconds / 86400)
  have isDate := civil_days (t.seconds / 86400)
  have fractionBound : (t.instant % second).toNat < 10 ^ 9 := by
    unfold second
    omega
  have ofDay : (t.seconds % 86400).toNat < 86400 := by omega
  have read := parseFraction_fraction fractionBound
  unfold dateText
  dsimp only
  generalize civil (t.seconds / 86400) = civilDate at *
  obtain ⟨year, month, day⟩ := civilDate
  dsimp only at *
  obtain ⟨year, rfl⟩ := Int.eq_ofNat_of_zero_le low
  have dayBound : day ≤ 31 := by
    refine lastDay.trans ?_
    unfold daysIn
    split <;> split <;> omega
  simp only [List.append_assoc, Int.natAbs_natCast]
  rw [parseRFC3339_fields (padded_length_of_lt (by omega)) (padded_length_of_lt (by omega))
    (padded_length_of_lt (by omega)) (padded_length_of_lt (by omega))
    (padded_length_of_lt (by omega)) (padded_length_of_lt (by omega))
    (parseField_padded (by omega) (by omega)) (parseField_padded firstMonth lastMonth)
    (parseField_padded firstDay lastDay) (parseField_padded (by omega) (by omega))
    (parseField_padded (by omega) (by omega)) (parseField_padded (by omega) (by omega))
    read]
  have isUTCZone : parseZone [0x5A] = some 0 := rfl
  rw [isUTCZone, Option.map_some]
  have isInstant : (date year month day ((t.seconds % 86400).toNat / 3600)
      ((t.seconds % 86400).toNat / 60 % 60) ((t.seconds % 86400).toNat % 60)
      (t.instant % second).toNat).instant = t.instant := by
    unfold date seconds at *
    dsimp only
    unfold second at *
    omega
  obtain ⟨instant, offset⟩ := t
  grind

/-! ## The texts of times -/

/-- The year of a time, in its zone. -/
def year (t : Time) : ℤ := (civil ((t.instant / second + t.offset) / 86400)).1

theorem dateText_fields (seconds : ℤ)
    (year : 0 ≤ (civil (seconds / 86400)).1 ∧ (civil (seconds / 86400)).1 < 10000) :
    (dateText seconds).all Json.plainByte = true ∧ (dateText seconds).length = 19 := by
  obtain ⟨-, lastMonth, -, lastDay⟩ := civil_fields (seconds / 86400)
  have dayBound : (civil (seconds / 86400)).2.2 ≤ 31 := by
    grind [daysIn]
  have plain : ∀ width value, (padded (width + 1) value).all Json.plainByte = true := by
    grind [Json.plainByte_of_isDigit, padded_digits]
  have lengths : ∀ {value}, value < 100 → (padded 2 value).length = 2 := fun bound =>
    @padded_length_of_lt 1 _ (by simpa using bound)
  unfold dateText
  dsimp only
  generalize civil (seconds / 86400) = civilDate at *
  obtain ⟨y, m, d⟩ := civilDate
  dsimp only at *
  have yearSize : (padded 4 y.natAbs).length = 4 :=
    @padded_length_of_lt 3 _ (by omega)
  constructor
  · simp only [List.all_append, plain, Bool.true_and, Bool.and_true]
    decide
  · simp only [List.length_append, yearSize]
    rw [lengths (by omega), lengths (by omega), lengths (by omega), lengths (by omega),
      lengths (by omega)]
    decide

theorem fraction_plain {nanoseconds : ℕ} (bound : nanoseconds < 10 ^ 9) :
    (fraction nanoseconds).all Json.plainByte = true ∧ (fraction nanoseconds).length ≤ 10 := by
  obtain ⟨areDigits, short, -⟩ := trimmed_value bound
  rw [fraction_eq bound]
  split
  · decide
  · constructor
    · rw [List.all_cons, Bool.and_eq_true, List.all_eq_true]
      exact ⟨by decide, fun byte member =>
        Json.plainByte_of_isDigit (areDigits byte member)⟩
    · rw [List.length_cons]
      omega

/-- A text that `MarshalJSON` gives stands for itself between quotes, and is short. -/
theorem marshalText_plain (isUTC : t.offset = 0)
    (written : t.marshalText = .ok text) : text.all Json.plainByte = true ∧ text.length ≤ 30 := by
  obtain ⟨year, rfl⟩ := marshalText_eq_ok isUTC written
  obtain ⟨plainDate, dateSize⟩ := dateText_fields t.seconds year
  obtain ⟨plainFraction, fractionSize⟩ := fraction_plain
    (show (t.instant % second).toNat < 10 ^ 9 by unfold second; omega)
  constructor
  · simp only [List.all_append, plainDate, plainFraction]
    decide
  · simp only [List.length_append, dateSize, List.length_singleton]
    omega

/-- The UTC times of the years 1 to 9999 are marshalled. -/
theorem marshalText_of_inRange (isUTC : t.offset = 0) (range : t.InRange) :
    ∃ text, t.marshalText = .ok text := by
  obtain ⟨start, bound⟩ := seconds_bounds range
  obtain ⟨low, high, -⟩ := civil_bounds start bound
  have yearSize : (padded 4 (civil (t.seconds / 86400)).1.natAbs).length = 4 :=
    @padded_length_of_lt 3 _ (by omega)
  have isText := formatRFC3339Nano_eq isUTC low
  have isDash : t.formatRFC3339Nano.getD 4 0 = 0x2D := by
    rw [isText, dateText, List.append_assoc, List.getD_eq_getElem?_getD,
      List.getElem?_append_right (by omega), yearSize]
    rfl
  have isZone : strictZone t.formatRFC3339Nano = true := by
    rw [isText, ← List.append_assoc, strictZone]
    simp
  refine ⟨t.formatRFC3339Nano, ?_⟩
  rw [marshalText, failIf_of_not (by simpa using isDash), ok_bind, failIf_of_not (by simp [isZone])]
  rfl

/-- The years 1970 to 9000, and the ten minutes after them, lie in the range. -/
theorem inRange_of_year (first : 1970 ≤ t.utc.year) (last : t.utc.year ≤ 9000)
    {lifetime : ℤ} (positive : 0 ≤ lifetime) (short : lifetime ≤ 3600000000000) :
    (t.utc.add lifetime).InRange := by
  have isYear : t.utc.year = (civil (t.instant / second / 86400)).1 := by
    simp [year, utc]
  rw [isYear] at first last
  have start : 0 ≤ t.instant / second / 86400 := by
    by_contra early
    have ordered := civil_lt (Int.not_le.mp early)
    have origin : (civil 0).1 = 1 := by decide
    omega
  have bound : t.instant / second / 86400 < yearTenThousand - 1 := by
    by_contra late
    have lastYear : (civil (yearTenThousand - 2)).1 = 9999 := by decide
    have ordered := civil_lt (show yearTenThousand - 2 < t.instant / second / 86400 by omega)
    omega
  unfold InRange utc add yearTenThousand second at *
  dsimp only
  omega

end Tubo.Time
