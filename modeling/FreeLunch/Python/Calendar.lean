import FreeLunch.Foundations.Numerals
import FreeLunch.Python.DateTime
import Mathlib.Data.String.Basic
import Mathlib.Order.Monotone.Basic

/-!
# The order of the dates

Dates are stored as texts and compared as texts: the end of a cooldown, the start of a window,
the cutoff of a pruning.  The text of a date puts the larger units first and fills every number
up, so that the texts are ordered as the seconds they name.

Main results:

- Theorem `exists_ordToYmd`: the year of a day and the day of the year, for every day.
- Theorem `isoZ_lt_iff`: the texts of two dates are ordered as their seconds.
- Theorem `dayText_lt`: the first ten characters are ordered as the days.
-/

namespace FreeLunch
namespace Python

open Numerals

/-! ## Years -/

/-- The days before a year. -/
def daysBeforeYear (year : ℕ) : ℕ :=
  365 * (year - 1) + (year - 1) / 4 - (year - 1) / 100 + (year - 1) / 400

/-- The days of a year. -/
def daysInYear (year : ℕ) : ℕ :=
  if isLeap year then 366 else 365

/-- The years counted in cycles of 400, 100, 4 and 1 years. -/
theorem exists_cycles {year : ℕ} (h : 0 < year) :
    ∃ a b c d, b < 4 ∧ c < 25 ∧ d < 4 ∧ year = 400 * a + 100 * b + 4 * c + d + 1 := by
  refine ⟨(year - 1) / 400, (year - 1) % 400 / 100, (year - 1) % 400 % 100 / 4,
    (year - 1) % 400 % 100 % 4, ?_⟩
  omega

/-- The last year of four is a leap year, unless it ends a century of four but the last. -/
theorem isLeap_iff {a b c d : ℕ} (hb : b < 4) (hc : c < 25) (hd : d < 4) :
    isLeap (400 * a + 100 * b + 4 * c + d + 1) = true ↔ d = 3 ∧ (c ≠ 24 ∨ b = 3) := by
  unfold isLeap
  rw [Bool.and_eq_true, Bool.or_eq_true, beq_iff_eq, bne_iff_ne, beq_iff_eq]
  omega

/-- The days of whole cycles. -/
theorem daysBeforeYear_eq {a b c d : ℕ} (hb : b < 4) (hc : c < 25) (hd : d < 4) :
    daysBeforeYear (400 * a + 100 * b + 4 * c + d + 1) =
      146097 * a + 36524 * b + 1461 * c + 365 * d := by
  have hfour : (400 * a + 100 * b + 4 * c + d) / 4 = 100 * a + 25 * b + c := by omega
  have hcentury : (400 * a + 100 * b + 4 * c + d) / 100 = 4 * a + b := by omega
  have hcycle : (400 * a + 100 * b + 4 * c + d) / 400 = a := by omega
  unfold daysBeforeYear
  rw [Nat.add_sub_cancel, hfour, hcentury, hcycle]
  omega

theorem daysBeforeYear_succ {year : ℕ} (h : 0 < year) :
    daysBeforeYear (year + 1) = daysBeforeYear year + daysInYear year := by
  obtain ⟨a, b, c, d, hb, hc, hd, rfl⟩ := exists_cycles h
  have hleap := isLeap_iff (a := a) hb hc hd
  unfold daysInYear
  rw [daysBeforeYear_eq hb hc hd]
  by_cases hd3 : d = 3
  · subst hd3
    by_cases hc24 : c = 24
    · subst hc24
      by_cases hb3 : b = 3
      · -- The end of a cycle of 400 years.
        subst hb3
        have hnext : 400 * a + 100 * 3 + 4 * 24 + 3 + 1 + 1 =
            400 * (a + 1) + 100 * 0 + 4 * 0 + 0 + 1 := by omega
        rw [if_pos (hleap.mpr ⟨rfl, .inr rfl⟩), hnext,
          daysBeforeYear_eq (b := 0) (c := 0) (d := 0) (by decide) (by decide) (by decide)]
        omega
      · -- The end of another century.
        have hnext : 400 * a + 100 * b + 4 * 24 + 3 + 1 + 1 =
            400 * a + 100 * (b + 1) + 4 * 0 + 0 + 1 := by omega
        rw [if_neg (by rw [hleap]; omega), hnext,
          daysBeforeYear_eq (c := 0) (d := 0) (by omega) (by decide) (by decide)]
        omega
    · have hnext : 400 * a + 100 * b + 4 * c + 3 + 1 + 1 =
          400 * a + 100 * b + 4 * (c + 1) + 0 + 1 := by omega
      rw [if_pos (hleap.mpr ⟨rfl, .inl hc24⟩), hnext,
        daysBeforeYear_eq (d := 0) hb (by omega) (by decide)]
      omega
  · have hnext : 400 * a + 100 * b + 4 * c + d + 1 + 1 =
        400 * a + 100 * b + 4 * c + (d + 1) + 1 := by omega
    rw [if_neg fun h => hd3 (hleap.mp h).1, hnext, daysBeforeYear_eq hb hc (by omega)]
    omega

theorem daysBeforeYear_mono : Monotone daysBeforeYear := by
  refine monotone_nat_of_le_succ fun year => ?_
  rcases Nat.eq_zero_or_pos year with rfl | hpos
  · rfl
  · rw [daysBeforeYear_succ hpos]
    exact Nat.le_add_right _ _

/-! ## Months -/

/-- Pairs and triples of numbers, the larger unit first. -/
def Before (a b : ℕ × ℕ) : Prop :=
  a.1 < b.1 ∨ a.1 = b.1 ∧ a.2 < b.2

theorem le_monthAndDay (month : ℕ) (lengths : List ℕ) (day : ℕ) :
    month ≤ (monthAndDay month lengths day).1 := by
  induction lengths generalizing month day with
  | nil => exact le_rfl
  | cons days rest ih =>
      unfold monthAndDay
      split
      · exact le_rfl
      · exact (Nat.le_succ month).trans (ih _ _)

/-- A later day of the year has a later month, or a later day of the same month. -/
theorem monthAndDay_before (month : ℕ) (lengths : List ℕ) {day later : ℕ} (h : day < later) :
    Before (monthAndDay month lengths day) (monthAndDay month lengths later) := by
  induction lengths generalizing month day later with
  | nil => exact .inr ⟨rfl, Nat.succ_lt_succ h⟩
  | cons days rest ih =>
      unfold monthAndDay
      by_cases hday : day < days
      · rw [if_pos hday]
        by_cases hlater : later < days
        · rw [if_pos hlater]
          exact .inr ⟨rfl, Nat.succ_lt_succ h⟩
        · rw [if_neg hlater]
          exact .inl (Nat.lt_of_succ_le (le_monthAndDay _ _ _))
      · rw [if_neg hday, if_neg (by omega)]
        exact ih _ (by omega)

/-- Within a year the month and the day have two digits. -/
theorem monthAndDay_lt (month : ℕ) {lengths : List ℕ} {day : ℕ} (hday : day < lengths.sum)
    (hlengths : ∀ days ∈ lengths, days ≤ 31) :
    (monthAndDay month lengths day).1 < month + lengths.length ∧
      (monthAndDay month lengths day).2 ≤ 31 := by
  induction lengths generalizing month day with
  | nil => cases hday
  | cons days rest ih =>
      obtain ⟨hdays, hrest⟩ := List.forall_mem_cons.mp hlengths
      rw [List.sum_cons] at hday
      rw [List.length_cons]
      unfold monthAndDay
      split
      · exact ⟨by omega, by omega⟩
      · have hwithin : day - days < rest.sum := by omega
        obtain ⟨hmonth, hlast⟩ := ih (month + 1) hwithin hrest
        exact ⟨by omega, hlast⟩

theorem sum_daysInMonths (year : ℕ) : (daysInMonths year).sum = daysInYear year := by
  unfold daysInMonths daysInYear
  cases isLeap year <;> rfl

theorem daysInMonths_le (year : ℕ) : ∀ days ∈ daysInMonths year, days ≤ 31 := by
  unfold daysInMonths
  cases isLeap year <;> decide

theorem monthAndDay_leap_end {year : ℕ} (hyear : isLeap year = true) :
    monthAndDay 1 (daysInMonths year) 365 = (12, 31) := by
  unfold daysInMonths
  rw [hyear]
  rfl

/-! ## Days -/

/-- The 366th day of a leap year. -/
theorem ymd_leap_end {a b c : ℕ} (hb : b < 4) (hc : c < 25) (hleap : c ≠ 24 ∨ b = 3) :
    ∃ year day, 0 < year ∧ day < daysInYear year ∧
      146097 * a + 36524 * b + 1461 * c + 1460 = daysBeforeYear year + day ∧
      (400 * a + 100 * b + 4 * c + 3 + 1, 12, 31) =
        (year, monthAndDay 1 (daysInMonths year) day) := by
  have hyear := (isLeap_iff (a := a) hb hc (by decide : 3 < 4)).mpr ⟨rfl, hleap⟩
  refine ⟨400 * a + 100 * b + 4 * c + 3 + 1, 365, Nat.succ_pos _, ?_, ?_, ?_⟩
  · unfold daysInYear
    rw [if_pos hyear]
    decide
  · rw [daysBeforeYear_eq hb hc (by decide)]
  · rw [monthAndDay_leap_end hyear]

/-- The year of a day, and the day of that year. -/
theorem exists_ordToYmd (ordinal : ℕ) :
    ∃ year day, 0 < year ∧ day < daysInYear year ∧ ordinal = daysBeforeYear year + day ∧
      ordToYmd ordinal = (year, monthAndDay 1 (daysInMonths year) day) := by
  have h400 := Nat.div_add_mod ordinal 146097
  have h100 := Nat.div_add_mod (ordinal % 146097) 36524
  have h4 := Nat.div_add_mod (ordinal % 146097 % 36524) 1461
  have h1 := Nat.div_add_mod (ordinal % 146097 % 36524 % 1461) 365
  have hcycle := Nat.mod_lt ordinal (by decide : 0 < 146097)
  have hcentury := Nat.mod_lt (ordinal % 146097) (by decide : 0 < 36524)
  have hfour := Nat.mod_lt (ordinal % 146097 % 36524) (by decide : 0 < 1461)
  have hyear := Nat.mod_lt (ordinal % 146097 % 36524 % 1461) (by decide : 0 < 365)
  unfold ordToYmd
  dsimp only
  generalize ordinal % 146097 % 36524 % 1461 % 365 = day at *
  generalize ordinal % 146097 % 36524 % 1461 / 365 = d at *
  generalize ordinal % 146097 % 36524 % 1461 = r1 at *
  generalize ordinal % 146097 % 36524 / 1461 = c at *
  generalize ordinal % 146097 % 36524 = r4 at *
  generalize ordinal % 146097 / 36524 = b at *
  generalize ordinal % 146097 = r100 at *
  generalize ordinal / 146097 = a at *
  by_cases hlast : d = 4 ∨ b = 4
  · rw [if_pos hlast]
    rcases hlast with rfl | rfl
    · have hordinal : ordinal = 146097 * a + 36524 * b + 1461 * c + 1460 := by omega
      have hname : a * 400 + b * 100 + c * 4 + 4 + 1 - 1 =
          400 * a + 100 * b + 4 * c + 3 + 1 := by omega
      rw [hordinal, hname]
      exact ymd_leap_end (by omega : b < 4) (by omega : c < 25) (by omega)
    · have hordinal : ordinal = 146097 * a + 36524 * 3 + 1461 * 24 + 1460 := by omega
      have hname : a * 400 + 4 * 100 + c * 4 + d + 1 - 1 =
          400 * a + 100 * 3 + 4 * 24 + 3 + 1 := by omega
      rw [hordinal, hname]
      exact ymd_leap_end (by decide : 3 < 4) (by decide : 24 < 25) (.inr rfl)
  · have hname : a * 400 + b * 100 + c * 4 + d + 1 = 400 * a + 100 * b + 4 * c + d + 1 := by omega
    rw [if_neg hlast, hname]
    refine ⟨_, day, Nat.succ_pos _, ?_, ?_, rfl⟩
    · unfold daysInYear
      split <;> omega
    · rw [daysBeforeYear_eq (by omega) (by omega) (by omega)]
      omega

/-- A day in a later year, or a later day of the same year. -/
theorem year_le_of_lt {year later day laterDay : ℕ} (hlater : 0 < later)
    (hlaterDay : laterDay < daysInYear later)
    (h : daysBeforeYear year + day < daysBeforeYear later + laterDay) :
    year < later ∨ year = later ∧ day < laterDay := by
  rcases lt_trichotomy year later with hlt | heq | hgt
  · exact .inl hlt
  · subst heq
    exact .inr ⟨rfl, by omega⟩
  · have hmono := daysBeforeYear_mono (Nat.succ_le_of_lt hgt)
    rw [Nat.succ_eq_add_one, daysBeforeYear_succ hlater] at hmono
    omega

/-- A later day has a later year, or a later month and day of the same year. -/
theorem ordToYmd_before {ordinal later : ℕ} (h : ordinal < later) :
    (ordToYmd ordinal).1 < (ordToYmd later).1 ∨
      (ordToYmd ordinal).1 = (ordToYmd later).1 ∧
        Before (ordToYmd ordinal).2 (ordToYmd later).2 := by
  obtain ⟨year, day, -, -, hordinal, hymd⟩ := exists_ordToYmd ordinal
  obtain ⟨laterYear, laterDay, hlaterYear, hlaterDay, hlater, hlaterYmd⟩ := exists_ordToYmd later
  rw [hymd, hlaterYmd]
  rw [hordinal, hlater] at h
  rcases year_le_of_lt hlaterYear hlaterDay h with hlt | ⟨rfl, hlt⟩
  · exact .inl hlt
  · exact .inr ⟨rfl, monthAndDay_before _ _ hlt⟩

/-- The numbers of a day of the calendar fit their widths. -/
theorem ordToYmd_lt {ordinal : ℕ} (h : ordinal < 3652059) :
    (ordToYmd ordinal).1 < 10 ^ 4 ∧ (ordToYmd ordinal).2.1 < 10 ^ 2 ∧
      (ordToYmd ordinal).2.2 < 10 ^ 2 := by
  obtain ⟨year, day, hyear, hday, hordinal, hymd⟩ := exists_ordToYmd ordinal
  rw [hymd]
  have hyears : year < 10000 := by
    by_contra hlarge
    have hmono := daysBeforeYear_mono (Nat.not_lt.mp hlarge)
    have hlast : daysBeforeYear 10000 = 3652059 := rfl
    omega
  have hwithin : day < (daysInMonths year).sum := by
    rw [sum_daysInMonths]
    exact hday
  obtain ⟨hmonth, hdays⟩ := monthAndDay_lt 1 hwithin (daysInMonths_le year)
  have hlength : (daysInMonths year).length = 12 := rfl
  dsimp only
  omega

/-! ## Texts -/

theorem digitChar_lt (d e : ℕ) (hlt : d < e) (he : e < 10) : Nat.digitChar d < Nat.digitChar e := by
  have hdigits : ∀ e d : Fin 10, d < e → Nat.digitChar d < Nat.digitChar e := by decide
  exact hdigits ⟨e, he⟩ ⟨d, hlt.trans he⟩ hlt

/-- The digits of a number that fits its width. -/
theorem toList_zeroFilled {width n : ℕ} (hn : n < 10 ^ (width + 1)) :
    (zeroFilled (width + 1) n).toList = numeral 10 Nat.digitChar (width + 1) n := by
  unfold zeroFilled
  rw [String.toList_ofList]
  induction width generalizing n with
  | zero =>
      rw [Nat.toDigits_of_lt_base (by omega), numeral, numeral, Nat.mod_eq_of_lt (by omega)]
      rfl
  | succ width ih =>
      rw [numeral]
      by_cases hsmall : n < 10
      · rw [Nat.toDigits_of_lt_base hsmall, Nat.div_eq_of_lt hsmall, Nat.mod_eq_of_lt hsmall,
          numeral_zero]
        rfl
      · rw [← ih (n := n / 10) (by omega), Nat.toDigits_of_base_le (by decide) (by omega)]
        simp only [List.leftpad, List.length_append, List.length_singleton, List.append_assoc,
          Nat.add_sub_add_right]

/-- The first ten characters of the text of a date. -/
def dayText (ordinal : ℕ) : List Char :=
  let (year, month, day) := ordToYmd ordinal
  (zeroFilled 4 year ++ "-" ++ zeroFilled 2 month ++ "-" ++ zeroFilled 2 day).toList

/-- The time of the day in the text of a date. -/
def clockText (clock : ℕ) : List Char :=
  (zeroFilled 2 (clock / 3600) ++ ":" ++ zeroFilled 2 (clock / 60 % 60) ++ ":" ++
    zeroFilled 2 (clock % 60) ++ "Z").toList

/-- The seconds from the start of the year 1. -/
def DateTime.second (t : DateTime) : ℕ :=
  t.microseconds.toNat / 1000000

/-- The days from the start of the year 1. -/
def DateTime.ordinal (t : DateTime) : ℕ :=
  t.second / 86400

theorem DateTime.ordinal_lt (t : DateTime) : t.ordinal < 3652059 := by
  have hrange := t.inRange
  unfold endOfCalendar maxOrdinal microsecondsPerDay at hrange
  unfold DateTime.ordinal DateTime.second
  omega

/-- A date moved by whole seconds. -/
theorem second_of_shift {t u : DateTime} {n : ℤ}
    (h : u.microseconds = t.microseconds + n * 1000000) : (u.second : ℤ) = t.second + n := by
  have ht := t.inRange.1
  have hu := u.inRange.1
  unfold DateTime.second
  omega

theorem second_of_minutes {t u : DateTime} {n : ℤ}
    (h : u.microseconds = t.microseconds + n * microsecondsPerMinute) :
    (u.second : ℤ) = t.second + 60 * n := by
  unfold microsecondsPerMinute at h
  refine second_of_shift ?_
  omega

theorem toList_isoZ (t : DateTime) :
    t.isoZ.toList = dayText t.ordinal ++ 'T' :: clockText (t.second % 86400) := by
  unfold DateTime.isoZ dayText clockText DateTime.ordinal DateTime.second
  simp only [String.toList_append, List.append_assoc]
  rfl

theorem dayText_eq {ordinal : ℕ} (h : ordinal < 3652059) :
    dayText ordinal = numeral 10 Nat.digitChar 4 (ordToYmd ordinal).1 ++
      '-' :: (numeral 10 Nat.digitChar 2 (ordToYmd ordinal).2.1 ++
        '-' :: (numeral 10 Nat.digitChar 2 (ordToYmd ordinal).2.2 ++ [])) := by
  obtain ⟨hyear, hmonth, hday⟩ := ordToYmd_lt h
  unfold dayText
  dsimp only
  simp only [String.toList_append, toList_zeroFilled hyear, toList_zeroFilled hmonth,
    toList_zeroFilled hday, List.append_assoc, List.append_nil]
  rfl

theorem clockText_eq {clock : ℕ} (h : clock < 86400) :
    clockText clock = numeral 10 Nat.digitChar 2 (clock / 3600) ++
      ':' :: (numeral 10 Nat.digitChar 2 (clock / 60 % 60) ++
        ':' :: (numeral 10 Nat.digitChar 2 (clock % 60) ++ ['Z'])) := by
  unfold clockText
  have hhour : clock / 3600 < 10 ^ 2 := by omega
  have hminute : clock / 60 % 60 < 10 ^ 2 := by omega
  have hsecond : clock % 60 < 10 ^ 2 := by omega
  simp only [String.toList_append, toList_zeroFilled hhour, toList_zeroFilled hminute,
    toList_zeroFilled hsecond, List.append_assoc]
  rfl

theorem length_dayText {ordinal : ℕ} (h : ordinal < 3652059) : (dayText ordinal).length = 10 := by
  rw [dayText_eq h]
  simp

/-- The text of a later day comes later. -/
theorem dayText_lt {ordinal later : ℕ} (hlt : ordinal < later) (hlater : later < 3652059) :
    dayText ordinal < dayText later := by
  obtain ⟨hyear, hmonth, hday⟩ := ordToYmd_lt (hlt.trans hlater)
  obtain ⟨hyear', hmonth', hday'⟩ := ordToYmd_lt hlater
  rw [dayText_eq (hlt.trans hlater), dayText_eq hlater,
    numeral_append_lt_iff digitChar_lt hyear hyear', List.cons_lt_cons_self,
    numeral_append_lt_iff digitChar_lt hmonth hmonth', List.cons_lt_cons_self,
    numeral_append_lt_iff digitChar_lt hday hday']
  rcases ordToYmd_before hlt with h | ⟨h, hbefore | ⟨hsame, hbefore⟩⟩
  · exact .inl h
  · exact .inr ⟨h, .inl hbefore⟩
  · exact .inr ⟨h, .inr ⟨hsame, .inl hbefore⟩⟩

/-- The text of a later time of the day comes later. -/
theorem clockText_lt {clock later : ℕ} (hlt : clock < later) (hlater : later < 86400) :
    clockText clock < clockText later := by
  rw [clockText_eq (hlt.trans hlater), clockText_eq hlater,
    numeral_append_lt_iff digitChar_lt (by omega) (by omega), List.cons_lt_cons_self,
    numeral_append_lt_iff digitChar_lt (by omega) (by omega), List.cons_lt_cons_self,
    numeral_append_lt_iff digitChar_lt (by omega) (by omega)]
  omega

/-- The text of a later second comes later. -/
theorem isoZ_lt_of_second_lt {t u : DateTime} (h : t.second < u.second) : t.isoZ < u.isoZ := by
  rw [String.lt_iff, toList_isoZ, toList_isoZ, append_lt_append_iff
    (by rw [length_dayText t.ordinal_lt, length_dayText u.ordinal_lt]), List.cons_lt_cons_self]
  have hday : t.ordinal ≤ u.ordinal := Nat.div_le_div_right h.le
  rcases Nat.lt_or_eq_of_le hday with hlt | heq
  · exact .inl (dayText_lt hlt u.ordinal_lt)
  · refine .inr ⟨by rw [heq], clockText_lt ?_ (Nat.mod_lt _ (by decide))⟩
    unfold DateTime.ordinal at heq
    omega

/-- The text of a date names its second. -/
theorem isoZ_eq_of_second_eq {t u : DateTime} (h : t.second = u.second) : t.isoZ = u.isoZ := by
  apply String.toList_injective
  rw [toList_isoZ, toList_isoZ]
  unfold DateTime.ordinal
  rw [h]

/-- The texts of two dates are ordered as their seconds. -/
theorem isoZ_lt_iff {t u : DateTime} : t.isoZ < u.isoZ ↔ t.second < u.second := by
  refine ⟨fun h => ?_, isoZ_lt_of_second_lt⟩
  by_contra hle
  rcases Nat.lt_or_eq_of_le (Nat.not_lt.mp hle) with hlt | heq
  · exact lt_asymm h (isoZ_lt_of_second_lt hlt)
  · rw [isoZ_eq_of_second_eq heq] at h
    exact lt_irrefl _ h

theorem isoZ_le_iff {t u : DateTime} : t.isoZ ≤ u.isoZ ↔ t.second ≤ u.second := by
  rw [← not_lt, isoZ_lt_iff, Nat.not_lt]

end Python
end FreeLunch
