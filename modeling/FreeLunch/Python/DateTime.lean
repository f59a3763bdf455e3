import FreeLunch.Foundations.Writes
import FreeLunch.Python.Value

/-!
# Dates

Aware dates in UTC and time spans, with the ranges that `datetime` and `timedelta` check and
the text of a date.

Main results:

- Theorems `add_eq_ok_iff`, `sub_eq_ok_iff`: a date moved by a span exists exactly when it
  falls in the years 1 to 9999.
-/

namespace FreeLunch
namespace Python

open Writes

/-! ## Time spans -/

/-- The microseconds of a day. -/
def microsecondsPerDay : Int := 86400000000

/-- The microseconds of a minute. -/
def microsecondsPerMinute : Int := 60000000

/-- `timedelta` of a number of microseconds, whose days are a C integer of at most nine
digits. -/
def timedelta (microseconds : Int) : Except Exc Int :=
  let days := microseconds / microsecondsPerDay
  if days < -(2 ^ 31) ∨ 2 ^ 31 ≤ days then
    .error (.overflowError "Python int too large to convert to C int")
  else if days < -999999999 ∨ 999999999 < days then
    .error (.overflowError
      ("days=" ++ toString days ++ "; must have magnitude <= 999999999"))
  else .ok microseconds

/-! ## Dates -/

/-- The days of the years 1 to 9999. -/
def maxOrdinal : Int := 3652059

/-- The first microsecond after the year 9999. -/
def endOfCalendar : Int := maxOrdinal * microsecondsPerDay

/-- An aware date in UTC, in microseconds from the start of the year 1. -/
@[ext]
structure DateTime where
  microseconds : Int
  inRange : 0 ≤ microseconds ∧ microseconds < endOfCalendar
deriving DecidableEq

/-- The date of a number of microseconds. -/
def dateOf (microseconds : Int) : Except Exc DateTime :=
  if h : 0 ≤ microseconds ∧ microseconds < endOfCalendar then .ok ⟨microseconds, h⟩
  else .error (.overflowError "date value out of range")

/-- `now + timedelta(microseconds=...)`. -/
def DateTime.add (now : DateTime) (microseconds : Int) : Except Exc DateTime := do
  let delta ← timedelta microseconds
  dateOf (now.microseconds + delta)

/-- `now - timedelta(microseconds=...)`. -/
def DateTime.sub (now : DateTime) (microseconds : Int) : Except Exc DateTime := do
  let delta ← timedelta microseconds
  dateOf (now.microseconds - delta)

/-- The first second of the year 2024. -/
def newYear : DateTime where
  microseconds := 63839664000000000
  inRange := by decide

/-! ## The text of a date -/

/-- The leap years of the calendar. -/
def isLeap (year : Nat) : Bool :=
  year % 4 == 0 && (year % 100 != 0 || year % 400 == 0)

/-- The lengths of the months. -/
def daysInMonths (year : Nat) : List Nat :=
  [31, if isLeap year then 29 else 28, 31, 30, 31, 30, 31, 31, 30, 31, 30, 31]

/-- The month and the day of the month, for a day of the year counted from 0. -/
def monthAndDay : (month : Nat) → List Nat → (day : Nat) → Nat × Nat
  | month, [], day => (month, day + 1)
  | month, days :: rest, day =>
      if day < days then (month, day + 1) else monthAndDay (month + 1) rest (day - days)

/-- `ord_to_ymd`, for days counted from 0: cycles of 400, 100, 4 and 1 years. -/
def ordToYmd (ordinal : Nat) : Nat × Nat × Nat :=
  let n400 := ordinal / 146097
  let n100 := ordinal % 146097 / 36524
  let n4 := ordinal % 146097 % 36524 / 1461
  let n1 := ordinal % 146097 % 36524 % 1461 / 365
  let year := n400 * 400 + n100 * 100 + n4 * 4 + n1 + 1
  if n1 = 4 ∨ n100 = 4 then (year - 1, 12, 31)
  else (year, monthAndDay 1 (daysInMonths year) (ordinal % 146097 % 36524 % 1461 % 365))

/-- A number in decimal, filled up with zeros. -/
def zeroFilled (width n : Nat) : String :=
  String.ofList ((Nat.toDigits 10 n).leftpad width '0')

/-- `now.replace(microsecond=0).isoformat().replace("+00:00", "Z")`. -/
def DateTime.isoZ (now : DateTime) : String :=
  let seconds := now.microseconds.toNat / 1000000
  let (year, month, day) := ordToYmd (seconds / 86400)
  let clock := seconds % 86400
  zeroFilled 4 year ++ "-" ++ zeroFilled 2 month ++ "-" ++ zeroFilled 2 day ++ "T" ++
    zeroFilled 2 (clock / 3600) ++ ":" ++ zeroFilled 2 (clock / 60 % 60) ++ ":" ++
    zeroFilled 2 (clock % 60) ++ "Z"

example : newYear.isoZ = "2024-01-01T00:00:00Z" := by
  decide +kernel

/-! ## Ranges -/

/-- A span no longer than the calendar is within the range of a span. -/
theorem timedelta_of_range {microseconds : Int} (hlow : -endOfCalendar ≤ microseconds)
    (hhigh : microseconds ≤ endOfCalendar) : timedelta microseconds = .ok microseconds := by
  unfold endOfCalendar maxOrdinal microsecondsPerDay at hlow hhigh
  have hdays : -3652059 ≤ microseconds / microsecondsPerDay ∧
      microseconds / microsecondsPerDay ≤ 3652059 := by
    unfold microsecondsPerDay
    omega
  unfold timedelta
  dsimp only
  rw [if_neg (by omega), if_neg (by omega)]

theorem timedelta_eq_ok {microseconds delta : Int}
    (h : timedelta microseconds = .ok delta) : delta = microseconds := by
  unfold timedelta at h
  dsimp only at h
  split at h
  · cases h
  · split at h
    · cases h
    · cases h
      rfl

theorem dateOf_eq_ok_iff {microseconds : Int} {t : DateTime} :
    dateOf microseconds = .ok t ↔ t.microseconds = microseconds := by
  unfold dateOf
  split
  · next h =>
      rw [Except.ok.injEq, DateTime.ext_iff]
      exact eq_comm
  · next h =>
      refine iff_of_false (by simp) ?_
      rintro rfl
      exact h t.inRange

/-- A date moved forward exists exactly when it is in the calendar. -/
theorem add_eq_ok_iff {now t : DateTime} {microseconds : Int} :
    now.add microseconds = .ok t ↔ t.microseconds = now.microseconds + microseconds := by
  unfold DateTime.add
  constructor
  · intro h
    obtain ⟨delta, hdelta, hdate⟩ := bind_ok_iff.mp h
    rw [dateOf_eq_ok_iff, timedelta_eq_ok hdelta] at hdate
    exact hdate
  · intro h
    have hnow := now.inRange
    have ht := t.inRange
    rw [timedelta_of_range (by omega) (by omega)]
    exact dateOf_eq_ok_iff.mpr h

/-- A date moved back exists exactly when it is in the calendar. -/
theorem sub_eq_ok_iff {now t : DateTime} {microseconds : Int} :
    now.sub microseconds = .ok t ↔ t.microseconds = now.microseconds - microseconds := by
  unfold DateTime.sub
  constructor
  · intro h
    obtain ⟨delta, hdelta, hdate⟩ := bind_ok_iff.mp h
    rw [dateOf_eq_ok_iff, timedelta_eq_ok hdelta] at hdate
    exact hdate
  · intro h
    have hnow := now.inRange
    have ht := t.inRange
    rw [timedelta_of_range (by omega) (by omega)]
    exact dateOf_eq_ok_iff.mpr h

end Python
end FreeLunch
