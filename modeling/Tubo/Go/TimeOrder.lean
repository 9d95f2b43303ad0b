import Mathlib.Data.List.DropRight
import Mathlib.Tactic.NormNum
import Tubo.Go.Time

/-!
# The order of timestamps as texts

SQLite compares two texts byte by byte.  A timestamp is stored as the
`RFC3339Nano` text of a UTC time, and that text drops the trailing zeros of the
fractional seconds.  This file compares the order of the texts with the order of
the instants.

* `Time.text_splits_of_second_lt` — in different seconds of the years 1 to 9999
  the two orders agree;
* `Time.inTextOrder_iff` — in the years 1 to 9999 they disagree exactly if one
  time is the other one cut off to fewer decimals of a second.  The shorter text
  then ends with `Z` where the longer one has a digit or the decimal point, and
  `Z` is the greater byte.
-/

namespace Tubo

/-! ## Texts that differ -/

/-- `x` comes before `y`, by a byte at which they differ. -/
def Splits (x y : GoString) : Prop :=
  ∃ (common : GoString) (c d : UInt8) (restX restY : GoString),
    x = common ++ c :: restX ∧ y = common ++ d :: restY ∧ c < d

namespace Splits

variable {x y : GoString}

theorem cons {c d : UInt8} (less : c < d) (restX restY : GoString) :
    Splits (c :: restX) (d :: restY) :=
  ⟨[], c, d, restX, restY, rfl, rfl, less⟩

theorem append (splits : Splits x y) (u v : GoString) : Splits (x ++ u) (y ++ v) := by
  obtain ⟨common, c, d, restX, restY, rfl, rfl, less⟩ := splits
  exact ⟨common, c, d, restX ++ u, restY ++ v, by simp, by simp, less⟩

theorem prepend (splits : Splits x y) (common : GoString) : Splits (common ++ x) (common ++ y) := by
  obtain ⟨inner, c, d, restX, restY, rfl, rfl, less⟩ := splits
  exact ⟨common ++ inner, c, d, restX, restY, by simp, by simp, less⟩

theorem lt (splits : Splits x y) : x < y := by
  obtain ⟨common, c, d, restX, restY, rfl, rfl, less⟩ := splits
  induction common with
  | nil => exact List.cons_lt_cons_iff.mpr (.inl less)
  | cons byte rest ih =>
    exact List.cons_lt_cons_iff.mpr (.inr ⟨rfl, ih⟩)

end Splits

namespace Time

/-! ## Decimal numerals -/

/-- The byte of a decimal digit. -/
def digit (value : ℕ) : UInt8 :=
  UInt8.ofNat (Nat.digitChar value).toNat

variable {a b width value day : ℕ} {t u : Time}

theorem digit_lt (less : a < b) (bound : b < 10) : digit a < digit b := by
  have all : ∀ b : Fin 10, ∀ a : Fin 10, a < b → digit a < digit b := by decide
  exact all ⟨b, bound⟩ ⟨a, less.trans bound⟩ less

theorem digit_lt_z (bound : a < 10) : digit a < 0x5A := by
  have all : ∀ a : Fin 10, digit a < 0x5A := by decide
  exact all ⟨a, bound⟩

theorem digit_eq_zero_iff (bound : a < 10) : digit a = 0x30 ↔ a = 0 := by
  have all : ∀ a : Fin 10, digit a = 0x30 ↔ a = 0 := by decide
  rw [all ⟨a, bound⟩, Fin.ext_iff]
  rfl

/-- The digits of a number, of which there are `width`, the first one first. -/
def numeral : ℕ → ℕ → GoString
  | 0, _ => []
  | width + 1, value =>
    digit (value / 10 ^ width) :: numeral width (value % 10 ^ width)

theorem div_pow_lt (bound : value < 10 ^ (width + 1)) : value / 10 ^ width < 10 := by
  rw [Nat.div_lt_iff_lt_mul (by positivity)]
  rwa [pow_succ, Nat.mul_comm] at bound

/-- The last digit can be split off as well. -/
theorem numeral_succ_eq_append (bound : value < 10 ^ (width + 1)) :
    numeral (width + 1) value = numeral width (value / 10) ++ [digit (value % 10)] := by
  induction width generalizing value with
  | zero =>
    grind [numeral]
  | succ width ih =>
    grind [Nat.mod_lt, Nat.mod_mul_right_div_self, Nat.mod_mul_right_mod, Nat.div_div_eq_div_mul,
      numeral]

theorem padded_succ (width value : ℕ) : padded (width + 2) value =
      padded (width + 1) (value / 10) ++ [digit (value % 10)] := by
  unfold padded
  by_cases small : value < 10
  · rw [Nat.toDigits_of_lt_base small, Nat.div_eq_of_lt small,
      Nat.mod_eq_of_lt small, Nat.toDigits_zero]
    simp [List.replicate_succ', digit]
  · rw [Nat.toDigits_of_base_le (by norm_num) (Nat.le_of_not_lt small)]
    simp [digit]

/-- A number is padded to its digits. -/
theorem padded_eq_numeral (bound : value < 10 ^ (width + 1)) :
    padded (width + 1) value = numeral (width + 1) value := by
  induction width generalizing value with
  | zero =>
    have small : value < 10 := by simpa using bound
    rw [padded, Nat.toDigits_of_lt_base small]
    simp [numeral, digit]
  | succ width ih =>
    grind [padded_succ, numeral_succ_eq_append]

/-- Numerals of one width compare as numbers. -/
theorem numeral_splits (less : a < b) (bound : b < 10 ^ width) :
    Splits (numeral width a) (numeral width b) := by
  induction width generalizing a b with
  | zero => simp at bound; omega
  | succ width ih =>
    rcases (Nat.div_le_div_right (c := 10 ^ width) less.le).lt_or_eq with
      head | head
    · exact .cons (digit_lt head (div_pow_lt bound)) _ _
    · have rest : a % 10 ^ width < b % 10 ^ width := by
        grind [Nat.div_add_mod]
      rw [numeral, numeral, head]
      exact (ih rest (Nat.mod_lt _ (by positivity))).prepend [_]

theorem padded_splits (less : a < b) (bound : b < 10 ^ (width + 1)) :
    Splits (padded (width + 1) a) (padded (width + 1) b) := by
  grind [padded_eq_numeral, numeral_splits]

/-! ## Fractions -/

/-- The digits of a number without trailing zeros. -/
def trimmed : ℕ → ℕ → GoString
  | 0, _ => []
  | width + 1, value =>
    if value = 0 then []
    else digit (value / 10 ^ width) :: trimmed width (value % 10 ^ width)

theorem trimmed_eq_nil_iff (bound : value < 10 ^ width) : trimmed width value = [] ↔ value = 0 := by
  cases width with
  | zero => simpa [trimmed] using bound
  | succ width => simp [trimmed]

theorem rdropWhile_numeral (bound : value < 10 ^ width) :
    (numeral width value).rdropWhile (· = 0x30) = trimmed width value := by
  induction width generalizing value with
  | zero => rfl
  | succ width ih =>
    have restBound : value % 10 ^ width < 10 ^ width :=
      Nat.mod_lt _ (by positivity)
    have rest := ih restBound
    have nonempty := trimmed_eq_nil_iff restBound
    have isZero := digit_eq_zero_iff (div_pow_lt bound)
    have whole := Nat.div_add_mod value (10 ^ width)
    have reversed : (List.dropWhile (· = 0x30) (numeral width (value % 10 ^ width)).reverse) =
        (trimmed width (value % 10 ^ width)).reverse := by
      rw [← rest, List.rdropWhile, List.reverse_reverse]
    rw [List.rdropWhile, numeral, List.reverse_cons, List.dropWhile_append, reversed, trimmed]
    by_cases last : value % 10 ^ width = 0
    · rw [nonempty.mpr last]
      by_cases first : value / 10 ^ width = 0
      · grind [List.dropWhile]
      · have some : value ≠ 0 := by
          rintro rfl
          simp at first
        simp [some, List.dropWhile, mt isZero.mp first]
    · grind

/-- The fraction of a number of nanoseconds. -/
theorem fraction_eq {nanoseconds : ℕ} (bound : nanoseconds < 10 ^ 9) : fraction nanoseconds =
      if nanoseconds = 0 then [] else 0x2E :: trimmed 9 nanoseconds := by
  have digits : ((padded 9 nanoseconds).reverse.dropWhile (· = 0x30)).reverse =
      trimmed 9 nanoseconds := by
    rw [padded_eq_numeral bound]
    exact rdropWhile_numeral bound
  rw [fraction]
  simp only [digits, trimmed_eq_nil_iff bound]
  rfl

/-- `a` is `b` with zeros for some of its last digits. -/
def Cut (width a b : ℕ) : Prop :=
  ∃ j ≤ width, a + b % 10 ^ j = b

/-- Of two trimmed numerals the shorter one comes last, if it begins the longer
one. -/
theorem trimmed_splits (less : a < b) (bound : b < 10 ^ width) :
    (Cut width a b ∧ Splits (trimmed width b ++ [0x5A]) (trimmed width a ++ [0x5A])) ∨
    (¬Cut width a b ∧ Splits (trimmed width a ++ [0x5A]) (trimmed width b ++ [0x5A])) := by
  induction width generalizing a b with
  | zero => simp at bound; omega
  | succ width ih =>
    have notZero : b ≠ 0 := Nat.ne_of_gt (Nat.zero_lt_of_lt less)
    have splitA := Nat.div_add_mod a (10 ^ width)
    have splitB := Nat.div_add_mod b (10 ^ width)
    have restB := Nat.mod_lt b (show 0 < 10 ^ width by positivity)
    by_cases empty : a = 0
    · subst empty
      refine .inl ⟨⟨width + 1, le_rfl, ?_⟩, ?_⟩
      · rw [Nat.zero_add, Nat.mod_eq_of_lt bound]
      · rw [trimmed, if_neg notZero, trimmed, if_pos rfl]
        exact .cons (digit_lt_z (div_pow_lt bound)) _ _
    -- A cut keeps the first digit, unless nothing is left.
    have cut_iff : Cut (width + 1) a b ↔ ∃ j ≤ width, a + b % 10 ^ width % 10 ^ j = b := by
      constructor
      · rintro ⟨j, le, isCut⟩
        rcases Nat.lt_or_ge width j with greater | le'
        · grind [Nat.mod_eq_of_lt]
        · refine ⟨j, le', ?_⟩
          rwa [Nat.mod_mod_of_dvd _ (pow_dvd_pow 10 le')]
      · rintro ⟨j, le, isCut⟩
        refine ⟨j, by omega, ?_⟩
        rwa [Nat.mod_mod_of_dvd _ (pow_dvd_pow 10 le)] at isCut
    rw [trimmed, if_neg notZero, trimmed, if_neg empty, cut_iff]
    rcases (Nat.div_le_div_right (c := 10 ^ width) less.le).lt_or_eq with
      head | head
    · refine .inr ⟨?_, .cons (digit_lt head (div_pow_lt bound)) _ _⟩
      rintro ⟨j, -, isCut⟩
      have small := Nat.mod_le (b % 10 ^ width) (10 ^ j)
      have more : 10 ^ width * (a / 10 ^ width + 1) ≤
          10 ^ width * (b / 10 ^ width) := Nat.mul_le_mul_left _ head
      rw [Nat.mul_add, Nat.mul_one] at more
      omega
    · rw [head] at splitA
      have rest : a % 10 ^ width < b % 10 ^ width := by omega
      have same : (∃ j ≤ width, a + b % 10 ^ width % 10 ^ j = b) ↔
          Cut width (a % 10 ^ width) (b % 10 ^ width) := by
        refine exists_congr fun j => and_congr_right fun _ => ?_
        omega
      rw [same, head]
      rcases ih rest restB with ⟨isCut, splits⟩ | ⟨isCut, splits⟩
      · exact .inl ⟨isCut, splits.prepend [_]⟩
      · exact .inr ⟨isCut, splits.prepend [_]⟩

/-- The ends of two texts in one second. -/
theorem fraction_splits (less : a < b) (bound : b < 10 ^ 9) :
    (Cut 9 a b ∧ Splits (fraction b ++ [0x5A]) (fraction a ++ [0x5A])) ∨
    (¬Cut 9 a b ∧ Splits (fraction a ++ [0x5A]) (fraction b ++ [0x5A])) := by
  have notZero : b ≠ 0 := Nat.ne_of_gt (Nat.zero_lt_of_lt less)
  rw [fraction_eq bound, fraction_eq (less.trans bound), if_neg notZero]
  by_cases empty : a = 0
  · subst empty
    refine .inl ⟨⟨9, le_rfl, ?_⟩, ?_⟩
    · rw [Nat.zero_add, Nat.mod_eq_of_lt bound]
    · exact .cons (by decide) _ _
  · rw [if_neg empty]
    rcases trimmed_splits less bound with ⟨isCut, splits⟩ | ⟨isCut, splits⟩
    · exact .inl ⟨isCut, splits.prepend [0x2E]⟩
    · exact .inr ⟨isCut, splits.prepend [0x2E]⟩

/-! ## Dates -/

/-- The year, of an era of 400 years that begins on 1 March. -/
def yearOfEra (dayOfEra : ℕ) : ℕ :=
  (dayOfEra - dayOfEra / 1460 + dayOfEra / 36524 - dayOfEra / 146096) / 365

/-- The first day of a year of an era. -/
def yearStart (year : ℕ) : ℕ :=
  365 * year + year / 4 - year / 100

/-- The month of a day of an era, counted from March. -/
def monthOfYear (dayOfEra : ℕ) : ℕ :=
  (5 * (dayOfEra - yearStart (yearOfEra dayOfEra)) + 2) / 153

/-- The day of its month. -/
def dayOfMonth (dayOfEra : ℕ) : ℕ :=
  dayOfEra - yearStart (yearOfEra dayOfEra) - (153 * monthOfYear dayOfEra + 2) / 5 + 1

theorem yearOfEra_mono (le : a ≤ b) (bound : b < 146097) : yearOfEra a ≤ yearOfEra b := by
  have inner : a - a / 1460 + a / 36524 - a / 146096 ≤
      b - b / 1460 + b / 36524 - b / 146096 := by omega
  exact Nat.div_le_div_right inner

theorem yearOfEra_lt (bound : day < 146097) : yearOfEra day < 400 := by
  unfold yearOfEra
  omega

/-- A year does not begin later, and the next one begins. -/
theorem yearStart_le (bound : day < 146097) :
    yearStart (yearOfEra day) ≤ day ∧ day < yearStart (yearOfEra day) + 366 := by
  -- Both bounds hold at the ends of each of the 400 years.
  have before : ∀ year : Fin 400, 0 < yearStart year →
      yearOfEra (yearStart year - 1) < year := by decide +kernel
  have isYear := yearOfEra_lt bound
  have small : yearStart (yearOfEra day) < 146097 := by
    unfold yearStart
    omega
  constructor
  · by_contra later
    have earlier := before ⟨yearOfEra day, isYear⟩ (by simp only; omega)
    have mono := yearOfEra_mono (a := day)
      (b := yearStart (yearOfEra day) - 1) (by omega) (by omega)
    simp only at earlier
    omega
  · grind [yearOfEra, yearStart]

theorem monthOfYear_lt (bound : day < 146097) : monthOfYear day < 12 := by
  have ends := (yearStart_le bound).2
  unfold monthOfYear
  omega

theorem dayOfMonth_bounds (day : ℕ) : 1 ≤ dayOfMonth day ∧ dayOfMonth day ≤ 31 := by
  unfold dayOfMonth monthOfYear
  omega

/-- Days of an era compare as year, month and day. -/
theorem march_lt (less : a < b) (bound : b < 146097) :
    yearOfEra a < yearOfEra b ∨ yearOfEra a = yearOfEra b ∧
      (monthOfYear a < monthOfYear b ∨ monthOfYear a = monthOfYear b ∧
        dayOfMonth a < dayOfMonth b) := by
  rcases (yearOfEra_mono less.le bound).lt_or_eq with earlier | same
  · exact .inl earlier
  refine .inr ⟨same, ?_⟩
  have startA := (yearStart_le (less.trans bound)).1
  have months : monthOfYear a ≤ monthOfYear b := by
    unfold monthOfYear
    rw [same]
    omega
  rcases months.lt_or_eq with earlier | sameMonth
  · exact .inl earlier
  refine .inr ⟨sameMonth, ?_⟩
  grind [monthOfYear, dayOfMonth]

/-- `civil`, in terms of years that begin in March. -/
theorem civil_eq (days : ℤ) : civil days =
      let era := (days + 306) / 146097
      let day := ((days + 306) % 146097).toNat
      let month :=
        if monthOfYear day < 10 then monthOfYear day + 3
        else monthOfYear day - 9
      (if month ≤ 2 then yearOfEra day + era * 400 + 1
        else yearOfEra day + era * 400, month, dayOfMonth day) := rfl

/-- Days compare as year, month and day. -/
theorem civil_lt {a b : ℤ} (less : a < b) : (civil a).1 < (civil b).1 ∨ (civil a).1 = (civil b).1 ∧
      ((civil a).2.1 < (civil b).2.1 ∨ (civil a).2.1 = (civil b).2.1 ∧
        (civil a).2.2 < (civil b).2.2) := by
  have boundA : ((a + 306) % 146097).toNat < 146097 := by omega
  have boundB : ((b + 306) % 146097).toNat < 146097 := by omega
  have yearA := yearOfEra_lt boundA
  have monthB := monthOfYear_lt boundB
  rw [civil_eq, civil_eq]
  dsimp only
  rcases (show (a + 306) / 146097 ≤ (b + 306) / 146097 by omega).lt_or_eq with
    era | era
  · split <;> split <;> split <;> split <;> omega
  · have days : ((a + 306) % 146097).toNat < ((b + 306) % 146097).toNat := by
      omega
    have ordered := march_lt days boundB
    split <;> split <;> split <;> split <;> omega

/-- The first day of the year 10000, counted from 1 January of the year 1. -/
def yearTenThousand : ℤ := 3652059

theorem civil_bounds {days : ℤ} (start : 0 ≤ days) (bound : days < yearTenThousand) :
    0 ≤ (civil days).1 ∧ (civil days).1 < 10 ^ 4 ∧ (civil days).2.1 < 10 ^ 2 ∧
      (civil days).2.2 < 10 ^ 2 := by
  have dayBound : ((days + 306) % 146097).toNat < 146097 := by omega
  have month := monthOfYear_lt dayBound
  have day := (dayOfMonth_bounds ((days + 306) % 146097).toNat).2
  refine ⟨?_, ?_, ?_, ?_⟩
  · rw [civil_eq]
    dsimp only
    split <;> split <;> omega
  · have last : (civil (yearTenThousand - 1)).1 = 9999 := by decide
    rcases (show days ≤ yearTenThousand - 1 by omega).lt_or_eq with less | same
    · have ordered := civil_lt less
      omega
    · rw [same, last]
      norm_num
  · rw [civil_eq]
    dsimp only
    split <;> omega
  · rw [civil_eq]
    dsimp only
    omega

/-! ## Times -/

/-- The text that is stored for a time. -/
def text (t : Time) : GoString :=
  t.utc.formatRFC3339Nano

theorem text_congr (same : t.instant = u.instant) : t.text = u.text := by
  unfold text utc
  rw [same]

/-- The years 1 to 9999. -/
def InRange (t : Time) : Prop :=
  0 ≤ t.instant ∧ t.instant < yearTenThousand * 86400 * second

/-- The whole seconds of a time. -/
def seconds (t : Time) : ℤ := t.instant / second

/-- The text of a date and a time of day up to the seconds. -/
def dateText (seconds : ℤ) : GoString :=
  let date := civil (seconds / 86400)
  let ofDay := (seconds % 86400).toNat
  padded 4 date.1.natAbs ++ (str "-" ++ (padded 2 date.2.1 ++ (str "-" ++
    (padded 2 date.2.2 ++ (str "T" ++ (padded 2 (ofDay / 3600) ++ (str ":" ++
      (padded 2 (ofDay / 60 % 60) ++ (str ":" ++ padded 2 (ofDay % 60))))))))))

theorem seconds_bounds (range : t.InRange) :
    0 ≤ t.seconds / 86400 ∧ t.seconds / 86400 < yearTenThousand := by
  obtain ⟨start, bound⟩ := range
  unfold seconds second yearTenThousand at *
  omega

theorem formatRFC3339Nano_eq (isUTC : t.offset = 0) (positive : 0 ≤ (civil (t.seconds / 86400)).1) :
    t.formatRFC3339Nano = dateText t.seconds ++
      (fraction (t.instant % second).toNat ++ [0x5A]) := by
  unfold formatRFC3339Nano dateText seconds at *
  rw [isUTC]
  simp only [Int.add_zero]
  rw [if_neg (Int.not_lt.mpr positive)]
  simp [zone, str]
  rfl

theorem text_eq (range : t.InRange) : t.text = dateText t.seconds ++
      (fraction (t.instant % second).toNat ++ [0x5A]) := by
  obtain ⟨start, bound⟩ := seconds_bounds range
  exact formatRFC3339Nano_eq rfl (civil_bounds start bound).1

/-- One field of a fixed width decides, or the rest does. -/
theorem field_splits {x y : GoString}
    (bound : b < 10 ^ (width + 1)) (ordered : a < b ∨ a = b ∧ Splits x y) :
    Splits (padded (width + 1) a ++ x) (padded (width + 1) b ++ y) := by
  rcases ordered with less | ⟨rfl, splits⟩
  · exact (padded_splits less bound).append x y
  · exact splits.prepend _

theorem dateText_splits {a b : ℤ} (less : a < b) (start : 0 ≤ a / 86400)
    (bound : b / 86400 < yearTenThousand) : Splits (dateText a) (dateText b) := by
  obtain ⟨yearA, -⟩ :=
    civil_bounds start (show a / 86400 < yearTenThousand by omega)
  obtain ⟨yearB, fourDigits, month, day⟩ :=
    civil_bounds (show 0 ≤ b / 86400 by omega) bound
  have date : (civil (a / 86400)).1 < (civil (b / 86400)).1 ∨
      (civil (a / 86400)).1 = (civil (b / 86400)).1 ∧
      ((civil (a / 86400)).2.1 < (civil (b / 86400)).2.1 ∨
        (civil (a / 86400)).2.1 = (civil (b / 86400)).2.1 ∧
        ((civil (a / 86400)).2.2 < (civil (b / 86400)).2.2 ∨
          (civil (a / 86400)).2.2 = (civil (b / 86400)).2.2 ∧
          a % 86400 < b % 86400)) := by
    rcases (show a / 86400 ≤ b / 86400 by omega).lt_or_eq with earlier | same
    · have ordered := civil_lt earlier
      omega
    · grind
  refine field_splits (by omega) (date.imp (by omega) fun ⟨sameYear, rest⟩ =>
    ⟨by rw [sameYear], .prepend ?_ _⟩)
  refine field_splits month (rest.imp_right fun ⟨sameMonth, rest⟩ =>
    ⟨sameMonth, .prepend ?_ _⟩)
  refine field_splits day (rest.imp_right fun ⟨sameDay, less⟩ =>
    ⟨sameDay, .prepend ?_ _⟩)
  have ofDay : (a % 86400).toNat < (b % 86400).toNat := by omega
  have bound : (b % 86400).toNat < 86400 := by omega
  generalize (a % 86400).toNat = x at *
  generalize (b % 86400).toNat = y at *
  have time : x / 3600 < y / 3600 ∨ x / 3600 = y / 3600 ∧
      (x / 60 % 60 < y / 60 % 60 ∨ x / 60 % 60 = y / 60 % 60 ∧ x % 60 < y % 60) := by omega
  refine field_splits (by omega) (time.imp_right fun ⟨sameHour, rest⟩ =>
    ⟨sameHour, .prepend ?_ _⟩)
  refine field_splits (by omega) (rest.imp_right fun ⟨sameMinute, less⟩ =>
    ⟨sameMinute, .prepend (padded_splits less (by omega)) _⟩)

/-- **Different seconds.**  The text of the earlier time comes first. -/
theorem text_splits_of_second_lt (rangeT : t.InRange)
    (rangeU : u.InRange) (less : t.seconds < u.seconds) : Splits t.text u.text := by
  rw [text_eq rangeT, text_eq rangeU]
  exact (dateText_splits less (seconds_bounds rangeT).1 (seconds_bounds rangeU).2).append _ _

/-- `t` is `u` cut off to fewer decimals of a second. -/
def Truncates (t u : Time) : Prop :=
  t.instant < u.instant ∧ ∃ j ≤ 9, t.instant = u.instant - u.instant % 10 ^ j

/-- The texts of two times are ordered as the times are. -/
def InTextOrder (t u : Time) : Prop :=
  t.text ≤ u.text ↔ t.instant ≤ u.instant

instance (t u : Time) : Decidable (t.InTextOrder u) :=
  inferInstanceAs (Decidable (_ ↔ _))

/-- The nanoseconds of a time within its second. -/
def nanoseconds (t : Time) : ℕ := (t.instant % second).toNat

theorem instant_eq (t : Time) :
    t.instant = second * t.seconds + t.nanoseconds ∧ t.nanoseconds < 10 ^ 9 := by
  unfold seconds nanoseconds second
  omega

theorem instant_mod (t : Time) {j : ℕ} (le : j ≤ 9) :
    t.instant % 10 ^ j = (t.nanoseconds % 10 ^ j : ℕ) := by
  have divides : (10 : ℤ) ^ j ∣ second := pow_dvd_pow 10 le
  grind [Int.emod_emod_of_dvd, second, nanoseconds]

/-- To be cut off is to be in the same second, with digits cut off. -/
theorem truncates_iff (less : t.instant < u.instant) : t.Truncates u ↔
      t.seconds = u.seconds ∧ Cut 9 t.nanoseconds u.nanoseconds := by
  obtain ⟨instantT, boundT⟩ := t.instant_eq
  obtain ⟨instantU, boundU⟩ := u.instant_eq
  unfold second at instantT instantU
  constructor
  · rintro ⟨-, j, le, isCut⟩
    have small := Nat.mod_le u.nanoseconds (10 ^ j)
    rw [u.instant_mod le] at isCut
    have sameSecond : t.seconds = u.seconds := by omega
    exact ⟨sameSecond, j, le, by omega⟩
  · rintro ⟨sameSecond, j, le, isCut⟩
    refine ⟨less, j, le, ?_⟩
    rw [u.instant_mod le]
    omega

/-- The text of the earlier time comes last exactly if it is the later one cut
off. -/
theorem text_splits_of_lt (rangeT : t.InRange) (rangeU : u.InRange) (less : t.instant < u.instant) :
    (t.Truncates u ∧ Splits u.text t.text) ∨ (¬t.Truncates u ∧ Splits t.text u.text) := by
  obtain ⟨instantT, boundT⟩ := t.instant_eq
  obtain ⟨instantU, boundU⟩ := u.instant_eq
  unfold second at instantT instantU
  rw [truncates_iff less]
  rcases (show t.seconds ≤ u.seconds by omega).lt_or_eq with earlier | same
  · exact .inr ⟨fun cut => earlier.ne cut.1, text_splits_of_second_lt rangeT rangeU earlier⟩
  · rw [text_eq rangeT, text_eq rangeU, same]
    have smaller : t.nanoseconds < u.nanoseconds := by omega
    rcases fraction_splits smaller boundU with ⟨isCut, splits⟩ | ⟨isCut, splits⟩
    · exact .inl ⟨⟨rfl, isCut⟩, splits.prepend _⟩
    · exact .inr ⟨fun cut => isCut cut.2, splits.prepend _⟩

/-- **The order of the texts.**  In the years 1 to 9999 two texts are ordered as
the instants, unless one time is the other cut off. -/
theorem inTextOrder_iff (rangeT : t.InRange) (rangeU : u.InRange) :
    t.InTextOrder u ↔ ¬t.Truncates u ∧ ¬u.Truncates t := by
  unfold InTextOrder
  rcases lt_trichotomy t.instant u.instant with less | same | greater
  · have notBack : ¬u.Truncates t := fun cut => absurd cut.1 less.not_gt
    rcases text_splits_of_lt rangeT rangeU less with
      ⟨isCut, splits⟩ | ⟨isCut, splits⟩
    · simp [isCut, less.le, splits.lt]
    · simp [isCut, notBack, less.le, List.le_of_lt splits.lt]
  · simp [Truncates, text_congr same, same]
  · have notBack : ¬t.Truncates u := fun cut => absurd cut.1 greater.not_gt
    rcases text_splits_of_lt rangeU rangeT greater with
      ⟨isCut, splits⟩ | ⟨isCut, splits⟩
    · simp [isCut, greater.not_ge, List.le_of_lt splits.lt]
    · simp [isCut, notBack, greater.not_ge, splits.lt]

/-- The text of a whole second comes after that of the next nanosecond. -/
example : ¬InTextOrder ⟨1, 0⟩ ⟨0, 0⟩ := by decide

end Time

end Tubo
