import Mathlib.Data.Int.Order.Basic
import Mathlib.Tactic.Common
import Mathlib.Tactic.IntervalCases

/-!
# The proleptic Gregorian calendar

The calendar is what follows what: `FallsOn` counts days from 1970-01-01 by steps of `Date.next`
alone. Counting in years that begin in March puts the leap day at the end of a year, which gives
the closed form `ordinal`; `fallsOn_iff` says that the closed form is the count.
-/

namespace Pesigitg.Base

/-- Leap years, in any century. -/
def IsLeap (year : Int) : Prop := year % 4 = 0 ∧ (year % 100 ≠ 0 ∨ year % 400 = 0)

instance (year : Int) : Decidable (IsLeap year) :=
  inferInstanceAs (Decidable (year % 4 = 0 ∧ (year % 100 ≠ 0 ∨ year % 400 = 0)))

def monthLength (year : Int) (month : Nat) : Nat :=
  if month = 2 then if IsLeap year then 29 else 28
  else if month = 4 ∨ month = 6 ∨ month = 9 ∨ month = 11 then 30
  else 31

/-- Every month has a day. -/
theorem one_le_monthLength (year : Int) (month : Nat) : 1 ≤ monthLength year month := by
  unfold monthLength
  split
  · split <;> omega
  · split <;> omega

/-- No month has more than 31 days. -/
theorem monthLength_le (year : Int) (month : Nat) : monthLength year month ≤ 31 := by
  unfold monthLength
  split
  · split <;> omega
  · split <;> omega

/-- A date that exists. -/
@[ext] structure Date where
  year : Int
  month : Nat
  day : Nat
  one_le_month : 1 ≤ month
  month_le : month ≤ 12
  one_le_day : 1 ≤ day
  day_le : day ≤ monthLength year month

namespace Date

/-- 1970-01-01. -/
def epoch : Date := ⟨1970, 1, 1, by decide, by decide, by decide, by decide⟩

/-- A date from its parts. -/
def ofParts (year : Int) (month day : Nat)
    (valid : 1 ≤ month ∧ month ≤ 12 ∧ 1 ≤ day ∧ day ≤ monthLength year month) : Date :=
  ⟨year, month, day, valid.1, valid.2.1, valid.2.2.1, valid.2.2.2⟩

/-- The first day of a month. -/
def first (year : Int) (month : Nat) (one_le_month : 1 ≤ month) (month_le : month ≤ 12) : Date :=
  ⟨year, month, 1, one_le_month, month_le, Nat.le_refl 1, one_le_monthLength year month⟩

/-- The following day. -/
def next (date : Date) : Date :=
  if inside : date.day < monthLength date.year date.month then
    ⟨date.year, date.month, date.day + 1, date.one_le_month, date.month_le, Nat.le_add_left 1 _,
      inside⟩
  else if within : date.month < 12 then
    first date.year (date.month + 1) (Nat.le_add_left 1 _) within
  else first (date.year + 1) 1 (by decide) (by decide)

end Date

section MarchYears

/-- The year that began last March. -/
def marchYear (year : Int) (month : Nat) : Int := if month ≤ 2 then year - 1 else year

/-- The month, from March on. -/
def marchMonth (month : Nat) : Nat := if month ≤ 2 then month + 9 else month - 3

/-- The day of the year that began last March, from zero. -/
def marchDay (month day : Nat) : Nat := (153 * marchMonth month + 2) / 5 + day - 1

/-- The days before a March year. -/
def yearStart (marchYear : Int) : Int :=
  365 * marchYear + marchYear / 4 - marchYear / 100 + marchYear / 400

/-- The days from 1970-01-01, in closed form. -/
def dayNumber (year : Int) (month day : Nat) : Int :=
  yearStart (marchYear year month) + marchDay month day - 719468

end MarchYears

/-- The days from 1970-01-01 to a date. -/
def Date.ordinal (date : Date) : Int := dayNumber date.year date.month date.day

/-- Day `number` after 1970-01-01 is the date. -/
inductive FallsOn : Int → Date → Prop where
  | epoch : FallsOn 0 Date.epoch
  | next {number : Int} {date : Date} (falls : FallsOn number date) : FallsOn (number + 1) date.next
  | prev {number : Int} {date : Date} (falls : FallsOn (number + 1) date.next) : FallsOn number date

section Years

/-- Later years start later. -/
theorem yearStart_mono {year later : Int} (before : year ≤ later) :
    yearStart year ≤ yearStart later := by
  unfold yearStart
  omega

/-- A March year is a day longer if the February at its end has a leap day. -/
theorem yearStart_succ (marchYear : Int) :
    yearStart (marchYear + 1) = yearStart marchYear + if IsLeap (marchYear + 1) then 366 else 365 := by
  unfold yearStart
  by_cases leap : IsLeap (marchYear + 1)
  · rw [if_pos leap]
    unfold IsLeap at leap
    omega
  · rw [if_neg leap]
    unfold IsLeap at leap
    omega

end Years

section Steps

variable {year : Int} {month day : Nat}

/-- The next day of a month has the next number. -/
theorem dayNumber_day (one_le_day : 1 ≤ day) :
    dayNumber year month (day + 1) = dayNumber year month day + 1 := by
  unfold dayNumber marchDay
  omega

/-- The first of a month follows the last of the month before; in February that ends a March
year. -/
theorem dayNumber_month (one_le_month : 1 ≤ month) (within : month < 12) :
    dayNumber year (month + 1) 1 = dayNumber year month (monthLength year month) + 1 := by
  by_cases february : month = 2
  · subst february
    have length := yearStart_succ (year - 1)
    rw [Int.sub_add_cancel] at length
    have march : marchYear year (2 + 1) = year := rfl
    have before : marchYear year 2 = year - 1 := rfl
    rw [dayNumber, dayNumber, march, before, length]
    simp only [marchDay, marchMonth, monthLength]
    split <;> simp <;> omega
  · unfold dayNumber monthLength marchDay marchMonth marchYear
    interval_cases month <;> simp at february ⊢ <;> omega

/-- New Year's Day follows the last day of December. -/
theorem dayNumber_year : dayNumber (year + 1) 1 1 = dayNumber year 12 (monthLength year 12) + 1 := by
  simp [dayNumber, marchYear, marchDay, marchMonth, monthLength]
  omega

/-- Counted from March, months are numbered 0 to 11. -/
theorem marchMonth_lt (one_le_month : 1 ≤ month) (month_le : month ≤ 12) : marchMonth month < 12 := by
  unfold marchMonth
  split <;> omega

/-- The day of the March year determines the month. -/
theorem marchMonth_eq (one_le_month : 1 ≤ month) (month_le : month ≤ 12) (one_le_day : 1 ≤ day)
    (day_le : day ≤ monthLength year month) :
    marchMonth month = (5 * marchDay month day + 2) / 153 := by
  have february : (if IsLeap year then 29 else 28) ≤ 29 := by split <;> decide
  unfold marchDay marchMonth
  unfold monthLength at day_le
  interval_cases month <;> simp at day_le ⊢ <;> omega

/-- Counted from March, the days of a year are 365, or 366 if its February has 29 days. -/
theorem marchDay_lt (one_le_month : 1 ≤ month) (month_le : month ≤ 12) (one_le_day : 1 ≤ day)
    (day_le : day ≤ monthLength year month) :
    marchDay month day < if IsLeap (marchYear year month + 1) then 366 else 365 := by
  unfold monthLength at day_le
  by_cases february : month = 2
  · -- The year that ends with this February is the one whose leap day counts.
    subst february
    simp only [marchDay, marchMonth, marchYear, Nat.le_refl, if_true, Int.sub_add_cancel] at day_le ⊢
    split <;> simp_all <;> omega
  · have short : day ≤ 31 := by
      rw [if_neg february] at day_le
      split at day_le <;> omega
    unfold marchDay marchMonth
    split <;> split <;> omega

end Steps

namespace Date

variable (date : Date)

/-- The month can be computed from the day of the year by one division. -/
theorem marchMonth_date : marchMonth date.month = (5 * marchDay date.month date.day + 2) / 153 :=
  marchMonth_eq date.one_le_month date.month_le date.one_le_day date.day_le

/-- A date lies between the starts of its March year and of the next one. -/
theorem ordinal_bounds : yearStart (marchYear date.year date.month) - 719468 ≤ date.ordinal ∧
    date.ordinal < yearStart (marchYear date.year date.month + 1) - 719468 := by
  have inside := marchDay_lt date.one_le_month date.month_le date.one_le_day date.day_le
  rw [yearStart_succ, ordinal, dayNumber]
  constructor
  · omega
  · split at inside <;> split <;> omega

/-- An earlier day is not in a later year, counted from March. -/
theorem marchYear_le_of_ordinal_le {date other : Date} (before : date.ordinal ≤ other.ordinal) :
    marchYear date.year date.month ≤ marchYear other.year other.month := by
  by_contra later
  have gap := yearStart_mono (Int.not_le.mp later)
  have low := date.ordinal_bounds.1
  have high := other.ordinal_bounds.2
  omega

/-- No two dates have the same ordinal. -/
theorem ordinal_injective : Function.Injective ordinal := by
  intro date other equal
  have years : marchYear date.year date.month = marchYear other.year other.month :=
    le_antisymm (marchYear_le_of_ordinal_le equal.le) (marchYear_le_of_ordinal_le equal.ge)
  have days : marchDay date.month date.day = marchDay other.month other.day := by
    simp only [ordinal, dayNumber] at equal
    rw [years] at equal
    omega
  have months : marchMonth date.month = marchMonth other.month := by
    rw [marchMonth_date, marchMonth_date, days]
  have sameMonth : date.month = other.month := by
    have low := date.one_le_month
    have high := date.month_le
    have low' := other.one_le_month
    have high' := other.month_le
    unfold marchMonth at months
    split at months <;> split at months <;> omega
  apply Date.ext
  · unfold marchYear at years
    rw [sameMonth] at years
    split at years <;> omega
  · exact sameMonth
  · have first := date.one_le_day
    have second := other.one_le_day
    unfold marchDay at days
    rw [sameMonth] at days
    omega

/-- The next date has the next ordinal. -/
theorem ordinal_next : date.next.ordinal = date.ordinal + 1 := by
  unfold next
  by_cases inside : date.day < monthLength date.year date.month
  · rw [dif_pos inside]
    exact dayNumber_day date.one_le_day
  · have last : date.day = monthLength date.year date.month :=
      le_antisymm date.day_le (Nat.not_lt.mp inside)
    rw [dif_neg inside, ordinal, ordinal, last]
    by_cases within : date.month < 12
    · rw [dif_pos within]
      exact dayNumber_month date.one_le_month within
    · have december : date.month = 12 := le_antisymm date.month_le (Nat.not_lt.mp within)
      rw [dif_neg within, december]
      exact dayNumber_year

/-- Every date has a day before it. -/
theorem exists_prev : ∃ before : Date, before.next = date := by
  obtain ⟨year, month, day, low, high, one, last⟩ := date
  by_cases inside : 1 < day
  · have within : day - 1 < monthLength year month := by omega
    refine ⟨⟨year, month, day - 1, low, high, by omega, within.le⟩, ?_⟩
    simp only [next, dif_pos within]
    ext <;> simp
    omega
  · obtain rfl : day = 1 := by omega
    by_cases january : month = 1
    · subst january
      refine ⟨⟨year - 1, 12, 31, by decide, by decide, by decide, by simp [monthLength]⟩, ?_⟩
      ext <;> simp [next, monthLength, first]
    · have within : month - 1 < 12 := by omega
      refine ⟨⟨year, month - 1, monthLength year (month - 1), by omega, within.le,
        one_le_monthLength _ _, Nat.le_refl _⟩, ?_⟩
      simp only [next, lt_self_iff_false, dif_neg, not_false_eq_true, dif_pos within, first]
      ext <;> simp
      omega

end Date

section Counting

/-- A date falls on the day number that is its ordinal. -/
theorem FallsOn.ordinal_eq {number : Int} {date : Date} (falls : FallsOn number date) :
    date.ordinal = number := by
  induction falls with
  | epoch => decide
  | next _ ih => rw [Date.ordinal_next, ih]
  | prev _ ih =>
    rw [Date.ordinal_next] at ih
    omega

/-- Every day number is that of a date, before and after the epoch. -/
theorem exists_fallsOn (number : Int) : ∃ date, FallsOn number date := by
  induction number using Int.induction_on with
  | zero => exact ⟨Date.epoch, .epoch⟩
  | succ number ih =>
    obtain ⟨date, falls⟩ := ih
    exact ⟨date.next, .next falls⟩
  | pred number ih =>
    obtain ⟨date, falls⟩ := ih
    obtain ⟨before, rfl⟩ := date.exists_prev
    exact ⟨before, .prev (by rwa [Int.sub_add_cancel])⟩

/-- The closed form is the count. -/
theorem fallsOn_iff {number : Int} {date : Date} : FallsOn number date ↔ date.ordinal = number := by
  constructor
  · exact FallsOn.ordinal_eq
  · intro counted
    obtain ⟨other, falls⟩ := exists_fallsOn number
    obtain rfl : date = other := Date.ordinal_injective (counted.trans falls.ordinal_eq.symm)
    exact falls

end Counting

end Pesigitg.Base
