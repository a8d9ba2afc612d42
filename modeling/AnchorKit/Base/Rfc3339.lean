import AnchorKit.Base.Lexical
import Mathlib.Tactic.IntervalCases

/-!
# UTC times as RFC 3339 text

Instants are nanoseconds since the start of the year 0 of the proleptic Gregorian
calendar, in UTC and without leap seconds.  The text of an instant in the years 0 to
9999 is its date, its time of day, the shortest exact fraction of 0, 3, 6 or 9 digits
and the offset `+00:00`.

The texts are ordered byte by byte as the instants are by time: up to the seconds all
fields have a fixed width, and of two fractions the one that ends first is followed by
a plus sign, which stands before the point and before every digit.
-/

set_option autoImplicit false

namespace AnchorKit.Base.Rfc3339

open AnchorKit.Base.Lexical

/-! ## The calendar -/

def isLeap (year : ℕ) : Bool :=
  year % 4 == 0 && (year % 100 != 0 || year % 400 == 0)

def daysBeforeYear (year : ℕ) : ℕ :=
  365 * year + (year + 3) / 4 - (year + 99) / 100 + (year + 399) / 400

/-- The days of the year before the month, January being the month 0. -/
def daysBeforeMonth (leap : Bool) (month : ℕ) : ℕ :=
  [0, 31, 59, 90, 120, 151, 181, 212, 243, 273, 304, 334].getD month 365 +
    if leap && decide (2 ≤ month) then 1 else 0

theorem multiples_succ (period year : ℕ) :
    (year + 1 + period) / (period + 1) =
      (year + period) / (period + 1) + if year % (period + 1) = 0 then 1 else 0 := by
  have divides : period + 1 ∣ year + period + 1 ↔ year % (period + 1) = 0 := by
    rw [Nat.add_assoc, Nat.dvd_add_left (Nat.dvd_refl _), Nat.dvd_iff_mod_eq_zero]
  rw [Nat.add_right_comm, Nat.succ_div]
  simp only [divides]

theorem isLeap_iff (year : ℕ) :
    isLeap year = true ↔ year % 4 = 0 ∧ (year % 100 ≠ 0 ∨ year % 400 = 0) := by
  simp only [isLeap, Bool.and_eq_true, Bool.or_eq_true, beq_iff_eq, bne_iff_ne]

theorem daysBeforeYear_succ (year : ℕ) :
    daysBeforeYear (year + 1) = daysBeforeYear year + if isLeap year then 366 else 365 := by
  have fourth : (year + 1 + 3) / 4 = (year + 3) / 4 + if year % 4 = 0 then 1 else 0 :=
    multiples_succ 3 year
  have hundredth : (year + 1 + 99) / 100 = (year + 99) / 100 + if year % 100 = 0 then 1 else 0 :=
    multiples_succ 99 year
  have fourHundredth :
      (year + 1 + 399) / 400 = (year + 399) / 400 + if year % 400 = 0 then 1 else 0 :=
    multiples_succ 399 year
  have fewer : (year + 99) / 100 ≤ (year + 3) / 4 := by omega
  have leap := isLeap_iff year
  unfold daysBeforeYear
  rw [fourth, hundredth, fourHundredth]
  generalize (year + 3) / 4 = fours at fewer
  generalize (year + 99) / 100 = hundreds at fewer
  by_cases four : year % 4 = 0
  · by_cases hundred : year % 100 = 0
    · by_cases fourHundred : year % 400 = 0
      · rw [if_pos four, if_pos hundred, if_pos fourHundred,
          if_pos (leap.mpr ⟨four, .inr fourHundred⟩)]
        omega
      · have common : ¬ isLeap year = true :=
          fun is => (leap.mp is).2.elim (fun not => not hundred) fourHundred
        rw [if_pos four, if_pos hundred, if_neg fourHundred, if_neg common]
        omega
    · have no400 : year % 400 ≠ 0 := by omega
      rw [if_pos four, if_neg hundred, if_neg no400, if_pos (leap.mpr ⟨four, .inl hundred⟩)]
      omega
  · have no100 : year % 100 ≠ 0 := by omega
    have no400 : year % 400 ≠ 0 := by omega
    rw [if_neg four, if_neg no100, if_neg no400, if_neg fun is => four (leap.mp is).1]
    omega

theorem daysBeforeYear_mono : Monotone daysBeforeYear := by
  refine monotone_nat_of_le_succ ?_
  intro year
  rw [daysBeforeYear_succ]
  exact Nat.le_add_right _ _

def yearOf (day : ℕ) : ℕ := block daysBeforeYear (day / 365) day

def dayOfYear (day : ℕ) : ℕ := day - daysBeforeYear (yearOf day)

def monthOf (day : ℕ) : ℕ :=
  block (daysBeforeMonth (isLeap (yearOf day))) 11 (dayOfYear day)

def dayOfMonth (day : ℕ) : ℕ :=
  dayOfYear day - daysBeforeMonth (isLeap (yearOf day)) (monthOf day)

theorem yearOf_lt {day : ℕ} (inRange : day < daysBeforeYear 10000) : yearOf day < 10 ^ 4 := by
  by_contra late
  have reached : daysBeforeYear (yearOf day) ≤ day := start_block_le daysBeforeYear rfl
  have later : daysBeforeYear 10000 ≤ _ := daysBeforeYear_mono (Nat.le_of_not_lt late)
  omega

theorem lt_daysBeforeYear_succ (day : ℕ) : day < daysBeforeYear (yearOf day + 1) := by
  by_contra reached
  have enough : 365 * (yearOf day + 1) ≤ daysBeforeYear (yearOf day + 1) := by
    unfold daysBeforeYear
    omega
  have inside : yearOf day + 1 ≤ day / 365 := by omega
  exact reached (lt_start_block_succ daysBeforeYear inside)

theorem monthOf_le (day : ℕ) : monthOf day ≤ 11 := block_le _ 11 (dayOfYear day)

theorem daysBeforeMonth_zero (leap : Bool) : daysBeforeMonth leap 0 = 0 := by
  cases leap with
  | false => rfl
  | true => rfl

theorem daysBeforeMonth_succ_le (leap : Bool) {month : ℕ} (early : month < 11) :
    daysBeforeMonth leap (month + 1) ≤ daysBeforeMonth leap month + 31 := by
  revert leap
  interval_cases month <;> decide

theorem dayOfMonth_lt (day : ℕ) : dayOfMonth day < 31 := by
  have next : day < daysBeforeYear (yearOf day) + if isLeap (yearOf day) then 366 else 365 := by
    rw [← daysBeforeYear_succ]
    exact lt_daysBeforeYear_succ day
  unfold dayOfMonth
  rcases Nat.lt_or_eq_of_le (monthOf_le day) with early | december
  · have beyond : dayOfYear day < daysBeforeMonth (isLeap (yearOf day)) (monthOf day + 1) :=
      lt_start_block_succ _ early
    have long := daysBeforeMonth_succ_le (isLeap (yearOf day)) early
    omega
  · rw [december, dayOfYear]
    cases leap : isLeap (yearOf day) with
    | false =>
        rw [leap, if_neg Bool.false_ne_true] at next
        have started : daysBeforeMonth false 11 = 334 := rfl
        omega
    | true =>
        rw [leap, if_pos rfl] at next
        have started : daysBeforeMonth true 11 = 335 := rfl
        omega

/-! ## The text -/

def nanosPerSecond : ℕ := 10 ^ 9

def nanosPerDay : ℕ := 86400 * nanosPerSecond

/-- A time in the years 0 to 9999. -/
structure Instant where
  nanos : ℕ
  inRange : nanos < daysBeforeYear 10000 * nanosPerDay
  deriving DecidableEq

def Instant.ofNanos (nanos : ℕ) : Option Instant :=
  if inRange : nanos < daysBeforeYear 10000 * nanosPerDay then some ⟨nanos, inRange⟩ else none

theorem Instant.ofNanos_nanos (instant : Instant) : ofNanos instant.nanos = some instant :=
  dif_pos instant.inRange

def dateText (day : ℕ) : List UInt8 :=
  pad 4 (yearOf day) ++ '-'.toUInt8 ::
    (pad 2 (monthOf day + 1) ++ '-'.toUInt8 :: pad 2 (dayOfMonth day + 1))

def timeText (second : ℕ) : List UInt8 :=
  pad 2 (second / 3600) ++ ':'.toUInt8 ::
    (pad 2 (second % 3600 / 60) ++ ':'.toUInt8 :: pad 2 (second % 3600 % 60))

def fractionText (nanos : ℕ) : List UInt8 :=
  if nanos = 0 then []
  else if nanos % 1000000 = 0 then '.'.toUInt8 :: pad 3 (nanos / 1000000)
  else if nanos % 1000 = 0 then '.'.toUInt8 :: pad 6 (nanos / 1000)
  else '.'.toUInt8 :: pad 9 nanos

def offsetText : List UInt8 := "+00:00".toList.map Char.toUInt8

def toRfc3339 (instant : Instant) : List UInt8 :=
  let day := instant.nanos / nanosPerDay
  let second := instant.nanos % nanosPerDay / nanosPerSecond
  let nanos := instant.nanos % nanosPerDay % nanosPerSecond
  dateText day ++ 'T'.toUInt8 :: (timeText second ++ (fractionText nanos ++ offsetText))

theorem length_dateText (day : ℕ) : (dateText day).length = 10 := by
  simp only [dateText, List.length_append, List.length_cons, length_pad]

theorem length_timeText (second : ℕ) : (timeText second).length = 8 := by
  simp only [timeText, List.length_append, List.length_cons, length_pad]

/-! ## Its order -/

theorem yearOf_lt_or {first second : ℕ} (less : first < second) :
    yearOf first < yearOf second ∨
      yearOf first = yearOf second ∧ dayOfYear first < dayOfYear second :=
  block_lt daysBeforeYear rfl less (Nat.div_le_div_right less.le)

theorem monthOf_lt_or {first second : ℕ} (sameYear : yearOf first = yearOf second)
    (later : dayOfYear first < dayOfYear second) :
    monthOf first < monthOf second ∨
      monthOf first = monthOf second ∧ dayOfMonth first < dayOfMonth second := by
  unfold dayOfMonth monthOf
  rw [sameYear]
  exact block_lt _ (daysBeforeMonth_zero _) later le_rfl

theorem dateText_lt {first second : ℕ} (less : first < second)
    (inRange : second < daysBeforeYear 10000) : dateText first < dateText second := by
  have shortMonth : monthOf second + 1 < 10 ^ 2 := by
    have bounded := monthOf_le second
    omega
  have shortDay : dayOfMonth second + 1 < 10 ^ 2 := by
    have bounded := dayOfMonth_lt second
    omega
  refine field_lt (yearOf_lt inRange) ?_
  rcases yearOf_lt_or less with earlier | ⟨sameYear, later⟩
  · exact .inl earlier
  · refine .inr ⟨sameYear, field_lt shortMonth ?_⟩
    rcases monthOf_lt_or sameYear later with before | ⟨sameMonth, after⟩
    · exact .inl (by omega)
    · exact .inr ⟨by omega, pad_lt_pad (by omega) shortDay⟩

theorem timeText_lt {first second : ℕ} (less : first < second) (inDay : second < 86400) :
    timeText first < timeText second := by
  refine field_lt (show second / 3600 < 10 ^ 2 by omega) ?_
  rcases div_mod_lt 3600 less with earlier | ⟨sameHour, later⟩
  · exact .inl earlier
  · refine .inr ⟨sameHour, field_lt (show second % 3600 / 60 < 10 ^ 2 by omega) ?_⟩
    rcases div_mod_lt 60 later with before | ⟨sameMinute, after⟩
    · exact .inl before
    · exact .inr ⟨sameMinute, pad_lt_pad after (by omega)⟩

/-! ### Fractions

Read three digits at a time, a fraction goes on as long as something is left of it. -/

def groups : ℕ → ℕ → List UInt8
  | 0, _ => offsetText
  | count + 1, value =>
      if value = 0 then offsetText
      else pad 3 (value / 1000 ^ count) ++ groups count (value % 1000 ^ count)

theorem groups_of_ne_zero {count value : ℕ} (left : value ≠ 0) :
    groups (count + 1) value =
      pad 3 (value / 1000 ^ count) ++ groups count (value % 1000 ^ count) :=
  if_neg left

theorem groups_zero (count : ℕ) : groups count 0 = offsetText := by
  cases count with
  | zero => rfl
  | succ count => exact if_pos rfl

theorem fractionText_eq (nanos : ℕ) :
    fractionText nanos ++ offsetText =
      if nanos = 0 then offsetText else '.'.toUInt8 :: groups 3 nanos := by
  unfold fractionText
  by_cases none : nanos = 0
  · rw [if_pos none, if_pos none, List.nil_append]
  rw [if_neg none, if_neg none, groups_of_ne_zero none]
  by_cases millis : nanos % 1000000 = 0
  · rw [if_pos millis, List.cons_append]
    change _ = '.'.toUInt8 :: (pad 3 (nanos / 1000000) ++ groups 2 (nanos % 1000000))
    rw [millis, groups_zero]
  rw [if_neg millis]
  have second : groups 2 (nanos % 1000000) =
      pad 3 (nanos / 1000 % 1000) ++ groups 1 (nanos % 1000) := by
    rw [groups_of_ne_zero millis]
    have quotient : nanos % 1000000 / 1000 = nanos / 1000 % 1000 := by omega
    have remainder : nanos % 1000000 % 1000 = nanos % 1000 := by omega
    exact congrArg₂ (fun value rest => pad 3 value ++ groups 1 rest) quotient remainder
  have six : ∀ value, pad 6 value = pad 3 (value / 1000) ++ pad 3 (value % 1000) :=
    pad_add 3 3
  change _ = '.'.toUInt8 :: (pad 3 (nanos / 1000000) ++ groups 2 (nanos % 1000000))
  rw [second]
  by_cases micros : nanos % 1000 = 0
  · rw [if_pos micros, micros, groups_zero, six, Nat.div_div_eq_div_mul, List.cons_append,
      List.append_assoc]
  · have nine : pad 9 nanos = pad 6 (nanos / 1000) ++ pad 3 (nanos % 1000) := pad_add 6 3 nanos
    rw [if_neg micros, groups_of_ne_zero micros, nine, six, Nat.div_div_eq_div_mul,
      List.cons_append, List.append_assoc, List.append_assoc, Nat.pow_zero, Nat.div_one]
    rfl

theorem offsetText_lt_pad (value : ℕ) (rest : List UInt8) :
    offsetText < pad 3 value ++ rest := by
  have sign : '+'.toUInt8 < digit (value / 10 ^ 2) := by
    rw [UInt8.lt_iff_toNat_lt, digit_toNat]
    exact Nat.lt_of_lt_of_le (show 43 < 48 by decide) (Nat.le_add_right 48 _)
  exact List.cons_lt_cons_iff.mpr (.inl sign)

theorem groups_lt {count first second : ℕ} (less : first < second)
    (bound : second < 1000 ^ count) : groups count first < groups count second := by
  induction count generalizing first second with
  | zero => omega
  | succ count ih =>
      have positive : 0 < 1000 ^ count := Nat.pow_pos (by decide)
      rw [groups, groups, if_neg (by omega : second ≠ 0)]
      by_cases zero : first = 0
      · rw [if_pos zero]
        exact offsetText_lt_pad _ _
      · rw [if_neg zero]
        apply append_lt_append
        · rw [length_pad, length_pad]
        · rcases div_mod_lt (1000 ^ count) less with before | ⟨equal, later⟩
          · refine .inl (pad_lt_pad before (Nat.div_lt_of_lt_mul ?_))
            rwa [Nat.pow_succ] at bound
          · exact .inr ⟨by rw [equal], ih later (Nat.mod_lt _ positive)⟩

theorem fractionText_lt {first second : ℕ} (less : first < second)
    (bound : second < nanosPerSecond) :
    fractionText first ++ offsetText < fractionText second ++ offsetText := by
  rw [fractionText_eq, fractionText_eq, if_neg (by omega : second ≠ 0)]
  by_cases zero : first = 0
  · rw [if_pos zero]
    exact List.cons_lt_cons_iff.mpr (.inl (by decide))
  · rw [if_neg zero]
    exact List.cons_lt_cons_iff.mpr (.inr ⟨rfl, groups_lt less bound⟩)

/-! ### Whole texts -/

structure Bounded (instant : Instant) : Prop where
  day : instant.nanos / nanosPerDay < daysBeforeYear 10000
  second : instant.nanos % nanosPerDay / nanosPerSecond < 86400
  nanos : instant.nanos % nanosPerDay % nanosPerSecond < nanosPerSecond

theorem Instant.bounded (instant : Instant) : Bounded instant where
  day := Nat.div_lt_of_lt_mul (by rw [Nat.mul_comm]; exact instant.inRange)
  second := Nat.div_lt_of_lt_mul (by
    rw [Nat.mul_comm]
    exact Nat.mod_lt _ (by decide))
  nanos := Nat.mod_lt _ (by decide)

theorem toRfc3339_lt {first second : Instant} (less : first.nanos < second.nanos) :
    toRfc3339 first < toRfc3339 second := by
  have bounded := second.bounded
  unfold toRfc3339
  apply append_lt_append
  · rw [length_dateText, length_dateText]
  · rcases div_mod_lt nanosPerDay less with earlier | ⟨sameDay, later⟩
    · exact .inl (dateText_lt earlier bounded.day)
    · refine .inr ⟨by rw [sameDay], List.cons_lt_cons_iff.mpr (.inr ⟨rfl, ?_⟩)⟩
      apply append_lt_append
      · rw [length_timeText, length_timeText]
      · rcases div_mod_lt nanosPerSecond later with before | ⟨sameSecond, after⟩
        · exact .inl (timeText_lt before bounded.second)
        · exact .inr ⟨by rw [sameSecond], fractionText_lt after bounded.nanos⟩

/-- Byte by byte, the texts are ordered as the instants are by time. -/
theorem toRfc3339_lt_iff (first second : Instant) :
    toRfc3339 first < toRfc3339 second ↔ first.nanos < second.nanos := by
  refine ⟨?_, toRfc3339_lt⟩
  intro less
  rcases Nat.lt_trichotomy first.nanos second.nanos with before | same | after
  · exact before
  · have equal : first = second := by
      cases first
      cases second
      cases same
      rfl
    rw [equal] at less
    exact absurd less (List.lt_irrefl _)
  · exact absurd (toRfc3339_lt after) (List.lt_asymm less)

/-! ## Reading the text -/

/-- The nanoseconds of the digits up to the offset. -/
def readFraction : List UInt8 → ℕ
  | [] => 0
  | mark :: rest =>
      if mark = '.'.toUInt8 then
        let digits := rest.takeWhile fun byte => byte != '+'.toUInt8
        number digits * 10 ^ (9 - digits.length)
      else 0

/-- Reads a text that `toRfc3339` may have written. -/
def fromRfc3339 (text : List UInt8) : Option Instant :=
  let (year, text) := field 4 text
  let (month, text) := field 2 text
  let (date, text) := field 2 text
  let (hour, text) := field 2 text
  let (minute, text) := field 2 text
  let second := number (text.take 2)
  let day := daysBeforeYear year + (daysBeforeMonth (isLeap year) (month - 1) + (date - 1))
  Instant.ofNanos (day * nanosPerDay +
    ((hour * 3600 + minute * 60 + second) * nanosPerSecond + readFraction (text.drop 2)))

theorem day_eq (day : ℕ) :
    daysBeforeYear (yearOf day) +
      (daysBeforeMonth (isLeap (yearOf day)) (monthOf day) + dayOfMonth day) = day := by
  have year : daysBeforeYear (yearOf day) ≤ day := start_block_le daysBeforeYear rfl
  have month : daysBeforeMonth (isLeap (yearOf day)) (monthOf day) ≤ dayOfYear day :=
    start_block_le _ (daysBeforeMonth_zero _)
  unfold dayOfMonth
  rw [Nat.add_sub_cancel' month, dayOfYear, Nat.add_sub_cancel' year]

theorem readFraction_digits {width value : ℕ} (bound : value < 10 ^ width) :
    readFraction ('.'.toUInt8 :: pad width value ++ offsetText) = value * 10 ^ (9 - width) := by
  have digits : (pad width value ++ offsetText).takeWhile (fun byte => byte != '+'.toUInt8) =
      pad width value := by
    rw [List.takeWhile_append_of_pos]
    · exact List.append_nil _
    · intro byte member
      have least := le_toNat_of_mem_pad member
      rw [bne_iff_ne]
      rintro rfl
      exact absurd least (by decide)
  rw [List.cons_append, readFraction, if_pos rfl]
  dsimp only
  rw [digits, number_pad bound, length_pad]

theorem readFraction_fractionText {nanos : ℕ} (bound : nanos < nanosPerSecond) :
    readFraction (fractionText nanos ++ offsetText) = nanos := by
  have nine : nanos < 10 ^ 9 := bound
  unfold fractionText
  by_cases none : nanos = 0
  · rw [if_pos none, none]
    rfl
  rw [if_neg none]
  by_cases millis : nanos % 1000000 = 0
  · rw [if_pos millis, readFraction_digits (by omega)]
    omega
  rw [if_neg millis]
  by_cases micros : nanos % 1000 = 0
  · rw [if_pos micros, readFraction_digits (by omega)]
    omega
  · rw [if_neg micros, readFraction_digits nine]
    omega

theorem fromRfc3339_fields {year month date hour minute second : ℕ} (rest : List UInt8)
    (yearFits : year < 10 ^ 4) (monthFits : month < 10 ^ 2) (dateFits : date < 10 ^ 2)
    (hourFits : hour < 10 ^ 2) (minuteFits : minute < 10 ^ 2) (secondFits : second < 10 ^ 2) :
    fromRfc3339 (pad 4 year ++ '-'.toUInt8 :: (pad 2 month ++ '-'.toUInt8 ::
        (pad 2 date ++ 'T'.toUInt8 :: (pad 2 hour ++ ':'.toUInt8 ::
          (pad 2 minute ++ ':'.toUInt8 :: (pad 2 second ++ rest)))))) =
      Instant.ofNanos
        ((daysBeforeYear year + (daysBeforeMonth (isLeap year) (month - 1) + (date - 1))) *
            nanosPerDay +
          ((hour * 3600 + minute * 60 + second) * nanosPerSecond + readFraction rest)) := by
  have taken : (pad 2 second ++ rest).take 2 = pad 2 second :=
    List.take_left' (length_pad 2 second)
  have dropped : (pad 2 second ++ rest).drop 2 = rest := List.drop_left' (length_pad 2 second)
  simp only [fromRfc3339, field_pad _ yearFits, field_pad _ monthFits, field_pad _ dateFits,
    field_pad _ hourFits, field_pad _ minuteFits, taken, dropped, number_pad secondFits]

theorem fromRfc3339_toRfc3339 (instant : Instant) :
    fromRfc3339 (toRfc3339 instant) = some instant := by
  have bounded := instant.bounded
  have month := monthOf_le (instant.nanos / nanosPerDay)
  have date := dayOfMonth_lt (instant.nanos / nanosPerDay)
  have seconds := bounded.second
  have clock : ∀ second, second / 3600 * 3600 + second % 3600 / 60 * 60 + second % 3600 % 60 =
      second := by omega
  unfold toRfc3339 dateText timeText
  simp only [List.append_assoc, List.cons_append]
  rw [fromRfc3339_fields _ (yearOf_lt bounded.day) (by omega) (by omega) (by omega) (by omega)
    (by omega), Nat.add_sub_cancel, Nat.add_sub_cancel, day_eq, clock,
    readFraction_fractionText bounded.nanos, Nat.div_add_mod', Nat.div_add_mod',
    instant.ofNanos_nanos]

/-- The last second of a leap day, to the microsecond. -/
example : toRfc3339 ⟨(730544 * 86400 + 86399) * 10 ^ 9 + 123000, by decide⟩ =
    "2000-02-29T23:59:59.000123+00:00".toList.map Char.toUInt8 := by decide +kernel

end AnchorKit.Base.Rfc3339
