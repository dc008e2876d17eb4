import Pesigitg.Base.Gregorian
import Pesigitg.Base.MachineInt

/-!
# Calendar dates of log lines

The daemon converts day numbers to dates and the build tool converts dates to day numbers. Both
split the days in eras of 400 years that begin in March. `civilFromDays_ordinal` and
`daysFromCivil_date` relate the two to the calendar; the year is an `i32`, which bounds where
they apply.
-/

namespace Pesigitg

open Base

/-- The calendar month of a month counted from March. -/
def monthOfMp (mp : Int) : Checked Int := if mp < 10 then u64.add mp 3 else u64.sub mp 9

/-- The calendar year of a month of a March year. -/
def yearOfMonth (y m : Int) : Checked Int := if m ≤ 2 then i64.add y 1 else pure y

/-- `civil_from_days`. -/
def civilFromDays (z : Int) : Checked (Int × Int × Int) := do
  let z ← i64.add z 719468
  let era := z / 146097
  let start ← i64.mul era 146097
  let doe ← i64.sub z start
  -- As a `u64` from here on.
  let doe := doe % 2 ^ 64
  let yearDays ← u64.sub doe (doe / 1460)
  let yearDays ← u64.add yearDays (doe / 36524)
  let yearDays ← u64.sub yearDays (doe / 146096)
  let yoe := yearDays / 365
  let eraYears ← i64.mul era 400
  let y ← i64.add yoe eraYears
  let before ← u64.mul 365 yoe
  let before ← u64.add before (yoe / 4)
  let before ← u64.sub before (yoe / 100)
  let doy ← u64.sub doe before
  let fifths ← u64.mul 5 doy
  let fifths ← u64.add fifths 2
  let mp := fifths / 153
  let monthStart ← u64.mul 153 mp
  let monthStart ← u64.add monthStart 2
  let d ← u64.sub doy (monthStart / 5)
  let d ← u64.add d 1
  let m ← monthOfMp mp
  let m := m % 2 ^ 32
  let y ← yearOfMonth y m
  -- `y as i32` wraps.
  pure (y.bmod (2 ^ 32), m, d % 2 ^ 32)

/-- The March year of a month. The year is decremented as an `i32`. -/
def yearOfMarch (y m : Int) : Checked Int := if m ≤ 2 then i32.sub y 1 else pure y

/-- The month, counted from March. -/
def mpOfMonth (m : Int) : Checked Int := if 2 < m then u32.sub m 3 else u32.add m 9

/-- `days_from_civil`. -/
def daysFromCivil (y m d : Int) : Checked Int := do
  let y ← yearOfMarch y m
  let era := y / 400
  let start ← i64.mul era 400
  let yoe ← i64.sub y start
  let mp ← mpOfMonth m
  let monthStart ← i64.mul 153 mp
  let monthStart ← i64.add monthStart 2
  let doy ← i64.add (monthStart.tdiv 5) d
  let doy ← i64.sub doy 1
  let doe ← i64.mul yoe 365
  let doe ← i64.add doe (yoe.tdiv 4)
  let doe ← i64.sub doe (yoe.tdiv 100)
  let doe ← i64.add doe doy
  let days ← i64.mul era 146097
  let days ← i64.add days doe
  i64.sub days 719468

namespace Civil

variable (date : Date)

/-- The era a date lies in. -/
def era : Int := marchYear date.year date.month / 400

/-- The March year in the era. -/
def yoe : Int := marchYear date.year date.month % 400

/-- The day of the March year. -/
def doy : Int := marchDay date.month date.day

/-- The day of the era. -/
def doe : Int := 365 * yoe date + yoe date / 4 - yoe date / 100 + doy date

/-- A year is an era of 400 years and a year of it. -/
theorem marchYear_eq : marchYear date.year date.month = 400 * era date + yoe date :=
  (Int.mul_ediv_add_emod _ _).symm

/-- The year of an era is below 400. -/
theorem yoe_bounds : 0 ≤ yoe date ∧ yoe date < 400 :=
  ⟨Int.emod_nonneg _ (by decide), Int.emod_lt_of_pos _ (by decide)⟩

/-- The day of the year is not negative. -/
theorem doy_nonneg : 0 ≤ doy date := Int.natCast_nonneg _

/-- The last day of a year of the era is the leap day, if the year has one. -/
theorem doy_lt : doy date < 365 ∨ doy date = 365 ∧ (yoe date + 1) % 4 = 0 ∧
    ((yoe date + 1) % 100 ≠ 0 ∨ (yoe date + 1) % 400 = 0) := by
  have inside := marchDay_lt date.one_le_month date.month_le date.one_le_day date.day_le
  have year := marchYear_eq date
  unfold doy
  by_cases leap : IsLeap (marchYear date.year date.month + 1)
  · rw [if_pos leap] at inside
    unfold IsLeap at leap
    omega
  · rw [if_neg leap] at inside
    omega

/-- The day of the year is at most 365. -/
theorem doy_le : doy date ≤ 365 := by
  have last := doy_lt date
  omega

/-- The day of an era is below the length of an era. -/
theorem doe_bounds : 0 ≤ doe date ∧ doe date < 146097 := by
  have year := yoe_bounds date
  have first := doy_nonneg date
  have last := doy_lt date
  unfold doe
  omega

/-- Days since the start of an era, moved to the epoch. -/
theorem ordinal_eq : date.ordinal + 719468 = era date * 146097 + doe date := by
  have year := marchYear_eq date
  obtain ⟨low, high⟩ := yoe_bounds date
  unfold Date.ordinal dayNumber yearStart doe doy
  omega

/-- The three quotients of the conversion count the leap days before a day of the era, up to one
too many near the end of a cycle of four years, which the quotient by 365 does not show. -/
theorem yoe_eq :
    (doe date - doe date / 1460 + doe date / 36524 - doe date / 146096) / 365 = yoe date := by
  have total : doe date = 365 * yoe date + yoe date / 4 - yoe date / 100 + doy date := rfl
  obtain ⟨low, high⟩ := yoe_bounds date
  have first := doy_nonneg date
  have last := doy_lt date
  generalize doe date = doe at *
  generalize yoe date = yoe at *
  generalize doy date = doy at *
  -- The year in its era: centuries, cycles of four years, and years.
  obtain ⟨century, cycle, single, split, ⟨century_nonneg, century_le⟩, ⟨cycle_nonneg, cycle_le⟩,
      single_nonneg, single_le⟩ : ∃ century cycle single : Int,
      yoe = 100 * century + 4 * cycle + single ∧ (0 ≤ century ∧ century ≤ 3) ∧
        (0 ≤ cycle ∧ cycle ≤ 24) ∧ 0 ≤ single ∧ single ≤ 3 :=
    ⟨yoe / 100, yoe % 100 / 4, yoe % 4, by omega, by omega, by omega, by omega⟩
  have spread : doe = 36524 * century + 1461 * cycle + 365 * single + doy := by omega
  have leap : doy < 365 ∨ doy = 365 ∧ single = 3 ∧ (cycle < 24 ∨ century = 3) := by omega
  clear last total
  have centuries : doe / 36524 - doe / 146096 = century := by
    obtain ⟨rest, within⟩ : ∃ rest, rest = 1461 * cycle + 365 * single + doy := ⟨_, rfl⟩
    have rest_nonneg : 0 ≤ rest := by omega
    have rest_lt : rest < 36524 ∨ rest = 36524 ∧ century = 3 := by omega
    have place : doe = 36524 * century + rest := by omega
    clear within spread leap
    rcases rest_lt with inside | ⟨atEnd, lastCentury⟩
    · have whole : doe / 36524 = century := by omega
      have none : doe / 146096 = 0 := by omega
      omega
    · omega
  obtain ⟨extra, extra_eq⟩ : ∃ extra, extra =
      (24 * century + cycle + 365 * single + doy) / 1460 := ⟨_, rfl⟩
  have cycles : doe / 1460 = 25 * century + cycle + extra := by omega
  have value : doe - doe / 1460 + doe / 36524 - doe / 146096 = 365 * yoe + (doy - extra) := by
    omega
  have fits : 0 ≤ doy - extra ∧ doy - extra < 365 := by
    clear cycles value centuries spread split
    omega
  rw [value]
  omega

/-- The day of the year is what is left of the day of the era. -/
theorem doy_eq : doe date - (365 * yoe date + yoe date / 4 - yoe date / 100) = doy date := by
  unfold doe
  omega

/-- The month follows from the day of the year. -/
theorem mp_eq : (5 * doy date + 2) / 153 = marchMonth date.month := by
  have month := date.marchMonth_date
  unfold doy
  omega

/-- The day of the month is what is left of the day of the year. -/
theorem day_eq : doy date - (153 * (marchMonth date.month : Int) + 2) / 5 + 1 = date.day := by
  have one := date.one_le_day
  unfold doy marchDay
  omega

/-- Days of a month are 1 to 31. -/
theorem day_bounds : (1 : Int) ≤ date.day ∧ (date.day : Int) ≤ 31 := by
  have one := date.one_le_day
  have last := date.day_le.trans (monthLength_le date.year date.month)
  omega

/-- The eras of the years of an `i32` are far inside an `i64`. -/
theorem era_bounds (fits : i32.Holds date.year) : -2 ^ 31 ≤ era date ∧ era date < 2 ^ 31 := by
  have year := marchYear_eq date
  obtain ⟨low, high⟩ := yoe_bounds date
  rw [i32_holds_iff] at fits
  unfold marchYear at year
  split at year <;> omega

end Civil

section Months

variable {year : Int} {month : Nat}

/-- The month counted from March is counted from January again. -/
theorem monthOfMp_marchMonth (one_le_month : 1 ≤ month) (month_le : month ≤ 12) :
    monthOfMp (marchMonth month) = .ok (month : Int) := by
  unfold monthOfMp marchMonth
  by_cases early : month ≤ 2
  · rw [if_pos early, if_neg (by omega), IntType.sub_of_holds (u64_holds_iff.mpr (by omega))]
    congr 1
    omega
  · rw [if_neg early, if_pos (by omega), IntType.add_of_holds (u64_holds_iff.mpr (by omega))]
    congr 1
    omega

/-- January and February belong to the next year. -/
theorem yearOfMonth_marchYear (fits : i32.Holds year) :
    yearOfMonth (marchYear year month) month = .ok year := by
  rw [i32_holds_iff] at fits
  unfold yearOfMonth marchYear
  by_cases early : month ≤ 2
  · rw [if_pos early, if_pos (by omega), IntType.add_of_holds (i64_holds_iff.mpr (by omega)),
      Int.sub_add_cancel]
  · rw [if_neg early, if_neg (by omega)]
    rfl

/-- Counting from March takes the year of January and February one back. -/
theorem yearOfMarch_eq (fits : i32.Holds (marchYear year month)) :
    yearOfMarch year month = .ok (marchYear year month) := by
  unfold yearOfMarch marchYear at *
  by_cases early : month ≤ 2
  · rw [if_pos early] at fits
    rw [if_pos early, if_pos (by omega)]
    exact IntType.sub_of_holds fits
  · rw [if_neg early, if_neg (by omega)]
    rfl

/-- The month counted from March. -/
theorem mpOfMonth_eq (month_le : month ≤ 12) : mpOfMonth month = .ok (marchMonth month : Int) := by
  unfold mpOfMonth marchMonth
  by_cases early : month ≤ 2
  · rw [if_pos early, if_neg (by omega), IntType.add_of_holds (u32_holds_iff.mpr (by omega))]
    rfl
  · rw [if_neg early, if_pos (by omega), IntType.sub_of_holds (u32_holds_iff.mpr (by omega))]
    congr 1
    omega

end Months

section Conversion

variable (date : Date)

/-- A day number from the calendar is converted to its date. -/
theorem civilFromDays_ordinal (fits : i32.Holds date.year) :
    civilFromDays date.ordinal = .ok (date.year, (date.month : Int), (date.day : Int)) := by
  have total := Civil.ordinal_eq date
  obtain ⟨doe_nonneg, doe_lt⟩ := Civil.doe_bounds date
  obtain ⟨yoe_nonneg, yoe_lt⟩ := Civil.yoe_bounds date
  have doy_nonneg := Civil.doy_nonneg date
  have doy_le := Civil.doy_le date
  obtain ⟨era_ge, era_le⟩ := Civil.era_bounds date fits
  obtain ⟨day_ge, day_le⟩ := Civil.day_bounds date
  have mp_lt := marchMonth_lt date.one_le_month date.month_le
  have eraOf : (date.ordinal + 719468) / 146097 = Civil.era date := by omega
  have doeOf : (date.ordinal + 719468 - Civil.era date * 146097) % 2 ^ 64 = Civil.doe date := by
    omega
  have yearOf : Civil.yoe date + Civil.era date * 400 = marchYear date.year date.month := by
    rw [Civil.marchYear_eq]
    omega
  have monthWrapped : (date.month : Int) % 2 ^ 32 = date.month :=
    Int.emod_eq_of_lt (by omega) (by have := date.month_le; omega)
  have dayWrapped : (date.day : Int) % 2 ^ 32 = date.day := Int.emod_eq_of_lt (by omega) (by omega)
  have yearWrapped : date.year.bmod (2 ^ 32) = date.year := by
    rw [i32_holds_iff] at fits
    exact Int.bmod_eq_of_le (by omega) (by omega)
  unfold civilFromDays
  rw [IntType.add_bind (i64_holds_iff.mpr (by omega))]
  simp only [eraOf]
  rw [IntType.mul_bind (i64_holds_iff.mpr (by omega)),
    IntType.sub_bind (i64_holds_iff.mpr (by omega))]
  simp only [doeOf]
  rw [IntType.sub_bind (u64_holds_iff.mpr (by omega)),
    IntType.add_bind (u64_holds_iff.mpr (by omega)),
    IntType.sub_bind (u64_holds_iff.mpr (by omega))]
  simp only [Civil.yoe_eq]
  rw [IntType.mul_bind (i64_holds_iff.mpr (by omega)),
    IntType.add_bind (i64_holds_iff.mpr (by omega)), yearOf,
    IntType.mul_bind (u64_holds_iff.mpr (by omega)),
    IntType.add_bind (u64_holds_iff.mpr (by omega)),
    IntType.sub_bind (u64_holds_iff.mpr (by omega)),
    IntType.sub_bind (u64_holds_iff.mpr (by rw [Civil.doy_eq]; omega)), Civil.doy_eq,
    IntType.mul_bind (u64_holds_iff.mpr (by omega)),
    IntType.add_bind (u64_holds_iff.mpr (by omega))]
  simp only [Civil.mp_eq]
  rw [IntType.mul_bind (u64_holds_iff.mpr (by omega)),
    IntType.add_bind (u64_holds_iff.mpr (by omega)),
    IntType.sub_bind (u64_holds_iff.mpr (by have := Civil.day_eq date; omega)),
    IntType.add_bind (u64_holds_iff.mpr (by rw [Civil.day_eq]; omega)), Civil.day_eq,
    monthOfMp_marchMonth date.one_le_month date.month_le, Checked.ok_bind]
  simp only [monthWrapped]
  rw [yearOfMonth_marchYear fits, Checked.ok_bind, yearWrapped, dayWrapped]
  rfl

/-- A date is converted to its day number, if the year its March year begins in is an `i32`. -/
theorem daysFromCivil_date (fits : i32.Holds (marchYear date.year date.month)) :
    daysFromCivil date.year date.month date.day = .ok date.ordinal := by
  have total := Civil.ordinal_eq date
  obtain ⟨doe_nonneg, doe_lt⟩ := Civil.doe_bounds date
  obtain ⟨yoe_nonneg, yoe_lt⟩ := Civil.yoe_bounds date
  have year := Civil.marchYear_eq date
  obtain ⟨day_ge, day_le⟩ := Civil.day_bounds date
  have mp_lt := marchMonth_lt date.one_le_month date.month_le
  have eraOf : marchYear date.year date.month / 400 = Civil.era date := rfl
  have yoeOf : marchYear date.year date.month - Civil.era date * 400 = Civil.yoe date := by omega
  have startOf : (153 * (marchMonth date.month : Int) + 2).tdiv 5 =
      (153 * (marchMonth date.month : Int) + 2) / 5 := Int.tdiv_eq_ediv_of_nonneg (by omega)
  have fourths : (Civil.yoe date).tdiv 4 = Civil.yoe date / 4 :=
    Int.tdiv_eq_ediv_of_nonneg yoe_nonneg
  have hundredths : (Civil.yoe date).tdiv 100 = Civil.yoe date / 100 :=
    Int.tdiv_eq_ediv_of_nonneg yoe_nonneg
  have doyOf : (153 * (marchMonth date.month : Int) + 2) / 5 + date.day - 1 = Civil.doy date := by
    have day := Civil.day_eq date
    omega
  have doeOf : Civil.yoe date * 365 + Civil.yoe date / 4 - Civil.yoe date / 100 + Civil.doy date =
      Civil.doe date := by
    unfold Civil.doe
    omega
  have daysOf : Civil.era date * 146097 + Civil.doe date - 719468 = date.ordinal := by omega
  have marchFits := i32_holds_iff.mp fits
  unfold daysFromCivil
  rw [yearOfMarch_eq fits, Checked.ok_bind]
  simp only [eraOf]
  rw [IntType.mul_bind (i64_holds_iff.mpr (by omega)),
    IntType.sub_bind (i64_holds_iff.mpr (by omega)), yoeOf,
    mpOfMonth_eq date.month_le, Checked.ok_bind,
    IntType.mul_bind (i64_holds_iff.mpr (by omega)),
    IntType.add_bind (i64_holds_iff.mpr (by omega)), startOf,
    IntType.add_bind (i64_holds_iff.mpr (by omega)),
    IntType.sub_bind (i64_holds_iff.mpr (by omega)), doyOf,
    IntType.mul_bind (i64_holds_iff.mpr (by omega)), fourths, hundredths,
    IntType.add_bind (i64_holds_iff.mpr (by omega)),
    IntType.sub_bind (i64_holds_iff.mpr (by omega)),
    IntType.add_bind (i64_holds_iff.mpr (by omega)), doeOf,
    IntType.mul_bind (i64_holds_iff.mpr (by omega)),
    IntType.add_bind (i64_holds_iff.mpr (by omega)),
    IntType.sub_of_holds (i64_holds_iff.mpr (by omega)), daysOf]

end Conversion

/-- The conversion is the calendar's, as far as the year is an `i32`: every day of such a year gets
its date, the date of the following day is the next one unless the years end there, and the build
tool's conversion leads back unless it has to step out of the years. -/
theorem civil_from_days_exact {z : Int} {date : Date} (falls : FallsOn z date)
    (fits : i32.Holds date.year) :
    civilFromDays z = .ok (date.year, (date.month : Int), (date.day : Int)) ∧
      (-2 ^ 31 < date.year ∨ 2 < date.month →
        daysFromCivil date.year date.month date.day = .ok z) ∧
      (i32.Holds date.next.year → civilFromDays (z + 1) =
        .ok (date.next.year, (date.next.month : Int), (date.next.day : Int))) ∧
      civilFromDays 0 = .ok (1970, 1, 1) := by
  obtain rfl := falls.ordinal_eq
  refine ⟨civilFromDays_ordinal date fits, ?_, ?_, civilFromDays_ordinal Date.epoch (by decide)⟩
  · intro inside
    apply daysFromCivil_date
    rw [i32_holds_iff] at fits ⊢
    unfold marchYear
    split <;> omega
  · intro nextFits
    rw [← date.ordinal_next]
    exact civilFromDays_ordinal date.next nextFits

/-- 2000-02-28. -/
def leapEve : Date := .ofParts 2000 2 28 (by decide)

/-- The day before the leap day of a year that 400 divides. -/
theorem leapEve_exact :
    FallsOn 11015 leapEve ∧ civilFromDays 11015 = .ok (2000, 2, 28) ∧
      daysFromCivil 2000 2 28 = .ok 11015 ∧ civilFromDays (11015 + 1) = .ok (2000, 2, 29) := by
  have falls : FallsOn 11015 leapEve := fallsOn_iff.mpr (by decide)
  obtain ⟨converted, back, following, -⟩ := civil_from_days_exact falls (by decide)
  exact ⟨falls, converted, back (by decide), following (by decide)⟩

/-- The last day whose year is an `i32`. -/
def lastDay : Date := .ofParts 2147483647 12 31 (by decide)

/-- The first day whose year is an `i32`. -/
def firstDay : Date := .ofParts (-2147483648) 1 1 (by decide)

/-- The day after the last one is given the first year, and the first day has no way back. -/
theorem last_day_wraps :
    (FallsOn lastDay.ordinal lastDay ∧ i32.Holds lastDay.year ∧ lastDay.next.year = 2147483648 ∧
      civilFromDays (lastDay.ordinal + 1) = .ok (-2147483648, 1, 1)) ∧
    FallsOn firstDay.ordinal firstDay ∧ i32.Holds firstDay.year ∧
      civilFromDays firstDay.ordinal = .ok (-2147483648, 1, 1) ∧
      daysFromCivil (-2147483648) 1 1 = .error (.assertion "attempt to subtract with overflow") := by
  exact ⟨⟨fallsOn_iff.mpr rfl, by decide, by decide, by decide +kernel⟩, fallsOn_iff.mpr rfl,
    by decide, by decide +kernel, by decide⟩

end Pesigitg
