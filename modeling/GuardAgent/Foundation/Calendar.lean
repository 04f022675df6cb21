import Mathlib.Algebra.Order.Group.Int
import Mathlib.Order.Monotone.Basic
import Mathlib.Data.Int.SuccPred
import Mathlib.Data.Int.ConditionallyCompleteOrder
import Mathlib.Order.SuccPred.IntervalSucc

/-!
# The proleptic Gregorian calendar

Dates and times of the calendar, with leap years by the 4/100/400 rule in all years, before
the first one too. A date has its day number, counted from the first day of year 1, and a
time its second, counted from 1970. Both numberings are injective, so there is one civil
time of an instant (`DateTime.unixSeconds_injective`).
-/

namespace Foundation

namespace Calendar

/-- Leap years. -/
def IsLeap (year : ℤ) : Prop :=
  year % 4 = 0 ∧ (year % 100 ≠ 0 ∨ year % 400 = 0)

instance (year : ℤ) : Decidable (IsLeap year) :=
  inferInstanceAs (Decidable (_ ∧ _))

def leapDays (year : ℤ) : ℕ :=
  if IsLeap year then 1 else 0

def monthLength (year : ℤ) : (month : ℕ) → ℕ
  | 2 => 28 + leapDays year
  | 4 | 6 | 9 | 11 => 30
  | _ => 31

structure Date where
  year : ℤ
  month : ℕ
  day : ℕ
  month_range : 1 ≤ month ∧ month ≤ 12
  day_range : 1 ≤ day ∧ day ≤ monthLength year month
  deriving DecidableEq

/-- The days of the years from year 1 to the one before. -/
def daysBeforeYear (year : ℤ) : ℤ :=
  365 * (year - 1) + (year - 1) / 4 - (year - 1) / 100 + (year - 1) / 400

/-- The days of the first months. -/
def daysOfMonths (year : ℤ) : (months : ℕ) → ℕ
  | 0 => 0
  | months + 1 => daysOfMonths year months + monthLength year (months + 1)

/-- A year has at most one leap day. -/
theorem leapDays_le (year : ℤ) : leapDays year ≤ 1 := by
  unfold leapDays
  split <;> decide

/-- A year begins as many days after the one before it as that has. -/
theorem daysBeforeYear_succ (year : ℤ) :
    daysBeforeYear (year + 1) = daysBeforeYear year + 365 + leapDays year := by
  unfold daysBeforeYear leapDays
  by_cases leap : IsLeap year
  · rw [if_pos leap]
    unfold IsLeap at leap
    omega
  · rw [if_neg leap]
    unfold IsLeap at leap
    omega

/-- The months of a year have all its days. -/
theorem daysOfMonths_twelve (year : ℤ) : daysOfMonths year 12 = 365 + leapDays year := by
  simp only [daysOfMonths, monthLength]
  omega

/-- The later of two years begins later. -/
theorem daysBeforeYear_monotone : Monotone daysBeforeYear :=
  monotone_int_of_le_succ fun year => by
    rw [daysBeforeYear_succ]
    omega

/-- The later of two months begins later. -/
theorem daysOfMonths_monotone (year : ℤ) : Monotone (daysOfMonths year) :=
  monotone_nat_of_le_succ fun _ => Nat.le_add_right _ _

/-- Of consecutive intervals a number is in one. -/
theorem eq_of_mem_intervals {Index Position : Type*} [LinearOrder Index] [LinearOrder Position]
    {start : Index → Position} (monotone : Monotone start) {next : Index → Index}
    (least : ∀ {index later}, index < later → next index ≤ later) {index other : Index}
    {position : Position} (inside : start index ≤ position ∧ position < start (next index))
    (inside' : start other ≤ position ∧ position < start (next other)) : index = other := by
  rcases lt_trichotomy index other with before | same | after
  · exact absurd (inside.2.trans_le ((monotone (least before)).trans inside'.1)) (lt_irrefl _)
  · exact same
  · exact absurd (inside'.2.trans_le ((monotone (least after)).trans inside.1)) (lt_irrefl _)

namespace Date

variable (date : Date)

/-- The days of its year before the date. -/
def dayOfYear : ℕ := daysOfMonths date.year (date.month - 1) + (date.day - 1)

/-- The days from the first day of year 1 to the date. -/
def dayNumber : ℤ := daysBeforeYear date.year + date.dayOfYear

/-- The first day of Unix time. -/
def unixEpoch : Date := ⟨1970, 1, 1, by decide, by decide⟩

/-- A date lies within its month. -/
theorem dayOfYear_inside : daysOfMonths date.year (date.month - 1) ≤ date.dayOfYear ∧
    date.dayOfYear < daysOfMonths date.year (date.month - 1 + 1) := by
  obtain ⟨first, last⟩ := date.day_range
  rw [daysOfMonths, Nat.sub_add_cancel date.month_range.1, dayOfYear]
  omega

/-- A date lies within its year, counted from the year's first day. -/
theorem dayOfYear_lt : date.dayOfYear < 365 + leapDays date.year := by
  rw [← daysOfMonths_twelve]
  refine date.dayOfYear_inside.2.trans_le (daysOfMonths_monotone date.year ?_)
  rw [Nat.sub_add_cancel date.month_range.1]
  exact date.month_range.2

/-- A date lies within its year, counted from the first day of all. -/
theorem dayNumber_inside : daysBeforeYear date.year ≤ date.dayNumber ∧
    date.dayNumber < daysBeforeYear (date.year + 1) := by
  have bound := date.dayOfYear_lt
  rw [daysBeforeYear_succ, dayNumber]
  omega

/-- Every day has one date. -/
theorem dayNumber_injective : Function.Injective dayNumber := by
  intro date other same
  have years : date.year = other.year := by
    refine eq_of_mem_intervals daysBeforeYear_monotone Int.add_one_le_of_lt
      date.dayNumber_inside ?_
    rw [same]
    exact other.dayNumber_inside
  have days : date.dayOfYear = other.dayOfYear := by
    rw [dayNumber, dayNumber, years] at same
    omega
  have months : date.month - 1 = other.month - 1 := by
    refine eq_of_mem_intervals (daysOfMonths_monotone date.year) Nat.succ_le_of_lt
      date.dayOfYear_inside ?_
    rw [days, years]
    exact other.dayOfYear_inside
  obtain ⟨year, month, day, month_range, day_range⟩ := date
  obtain ⟨year', month', day', month_range', day_range'⟩ := other
  obtain rfl : year = year' := years
  obtain rfl : month = month' := by
    change month - 1 = month' - 1 at months
    omega
  obtain rfl : day = day' := by
    change daysOfMonths year (month - 1) + (day - 1) =
      daysOfMonths year (month - 1) + (day' - 1) at days
    omega
  rfl

end Date

structure DateTime extends Date where
  hour : ℕ
  minute : ℕ
  second : ℕ
  hour_lt : hour < 24
  minute_lt : minute < 60
  second_lt : second < 60
  deriving DecidableEq

namespace DateTime

variable (time : DateTime)

def secondOfDay : ℕ := 3600 * time.hour + 60 * time.minute + time.second

/-- The seconds from the Unix epoch to the time. -/
def unixSeconds : ℤ :=
  (time.dayNumber - Date.unixEpoch.dayNumber) * 86400 + time.secondOfDay

/-- The time of day is less than a day. -/
theorem secondOfDay_lt : time.secondOfDay < 86400 := by
  have := time.hour_lt
  have := time.minute_lt
  have := time.second_lt
  unfold secondOfDay
  omega

/-- **Every second has one time.** -/
theorem unixSeconds_injective : Function.Injective unixSeconds := by
  intro time other same
  have bound := time.secondOfDay_lt
  have bound' := other.secondOfDay_lt
  unfold unixSeconds at same
  have dates : time.toDate = other.toDate := Date.dayNumber_injective (by omega)
  have seconds : time.secondOfDay = other.secondOfDay := by omega
  obtain ⟨date, hour, minute, second, _, minute_lt, second_lt⟩ := time
  obtain ⟨date', hour', minute', second', _, minute_lt', second_lt'⟩ := other
  obtain rfl : date = date' := dates
  change 3600 * hour + 60 * minute + second = 3600 * hour' + 60 * minute' + second' at seconds
  obtain rfl : hour = hour' := by omega
  obtain rfl : minute = minute' := by omega
  obtain rfl : second = second' := by omega
  rfl

end DateTime

end Calendar

end Foundation
