import Intake.Time.Calendar

/-!
# The calendar and the count of days

A day counted from the start of 1970 has a date that the calendar has, and the day of that date is
the day itself. A year that is counted from March starts after the leap days before it, so the
years of a cycle cover its days without gap or overlap.
-/

namespace Intake

namespace CalendarDate

/-- The day of the cycle on which a year of the cycle starts, counted from March. -/
def yearStart (yearOfCycle : Nat) : Nat :=
  365 * yearOfCycle + yearOfCycle / 4 - yearOfCycle / 100 + yearOfCycle / 400

/-- The day that the year of a cycle starts on is not past any of its days, and the next year
starts after them. -/
theorem yearStart_bounds {dayOfCycle yearOfCycle : Nat} (inCycle : dayOfCycle < 146097)
    (found : yearOfCycle =
      (dayOfCycle - dayOfCycle / 1460 + dayOfCycle / 36524 - dayOfCycle / 146096) / 365) :
    yearOfCycle < 400 ∧ yearStart yearOfCycle ≤ dayOfCycle ∧
      dayOfCycle < yearStart (yearOfCycle + 1) := by
  have centuries : dayOfCycle = 146096 ∨ (dayOfCycle / 146096 = 0 ∧
      (dayOfCycle / 36524 = 0 ∨ dayOfCycle / 36524 = 1 ∨ dayOfCycle / 36524 = 2 ∨
        dayOfCycle / 36524 = 3)) := by
    omega
  unfold yearStart
  rcases centuries with rfl | ⟨notLast, century⟩
  · omega
  · rw [notLast] at found
    have sameCentury : yearOfCycle / 100 = dayOfCycle / 36524 := by
      rcases century with century | century | century | century <;> omega
    have leapsBefore : yearOfCycle / 4 ≤ dayOfCycle / 1460 := by
      rcases century with century | century | century | century <;> omega
    have leapsAfter : dayOfCycle / 1460 ≤ (yearOfCycle + 1) / 4 := by
      rcases century with century | century | century | century <;> omega
    have early : yearOfCycle < 400 := by omega
    have noCycle : yearOfCycle / 400 = 0 := by omega
    refine ⟨early, ?_, ?_⟩
    · rcases century with century | century | century | century <;> omega
    · by_cases last : yearOfCycle = 399
      · subst last
        omega
      · have noNextCycle : (yearOfCycle + 1) / 400 = 0 := by omega
        have nextCentury : (yearOfCycle + 1) / 100 ≤ yearOfCycle / 100 + 1 := by omega
        rcases century with century | century | century | century <;> omega

/-- A year counted from March has a 366th day only if the next year of the calendar is a leap
year. -/
theorem isLeapYear_of_long {yearOfCycle : Nat} (inCycle : yearOfCycle < 400)
    (long : 365 < yearStart (yearOfCycle + 1) - yearStart yearOfCycle) (cycle : Int) :
    isLeapYear (yearOfCycle + cycle * 400 + 1) = true := by
  unfold yearStart at long
  have fourth : ((yearOfCycle : Int) + cycle * 400 + 1) % 4 = 0 := by omega
  have century : ((yearOfCycle : Int) + cycle * 400 + 1) % 100 ≠ 0 ∨
      ((yearOfCycle : Int) + cycle * 400 + 1) % 400 = 0 := by
    omega
  simp only [isLeapYear, fourth, Bool.and_eq_true, beq_iff_eq, Bool.or_eq_true, bne_iff_ne,
    true_and]
  exact century

/-- How the date of a day is found: a cycle, a year of it, a day of that year, and a month of the
year counted from March. -/
structure Reckoning (day : Int) where
  cycle : Int
  yearOfCycle : Nat
  dayOfYear : Nat
  inCycle : yearOfCycle < 400
  inYear : dayOfYear < yearStart (yearOfCycle + 1) - yearStart yearOfCycle
  counted : day + epochOffset =
    cycle * daysPerCycle + yearStart yearOfCycle + dayOfYear

namespace Reckoning

variable {day : Int}

/-- The month, where March is 0. -/
def monthFromMarch (reckoning : Reckoning day) : Nat :=
  (5 * reckoning.dayOfYear + 2) / 153

def month (reckoning : Reckoning day) : Nat :=
  if reckoning.monthFromMarch < 10 then reckoning.monthFromMarch + 3
  else reckoning.monthFromMarch - 9

def date (reckoning : Reckoning day) : CalendarDate where
  year := reckoning.yearOfCycle + reckoning.cycle * 400 + if reckoning.month ≤ 2 then 1 else 0
  month := reckoning.month
  day := reckoning.dayOfYear - (153 * reckoning.monthFromMarch + 2) / 5 + 1

end Reckoning

theorem exists_reckoning (day : Int) : ∃ reckoning : Reckoning day, ofDay day = reckoning.date := by
  have positive : daysPerCycle ≠ 0 := by decide
  have nonneg := Int.emod_nonneg (day + epochOffset) positive
  have below : (day + epochOffset) % daysPerCycle < 146097 := Int.emod_lt_of_pos _ (by decide)
  have inCycle : ((day + epochOffset) % daysPerCycle).toNat < 146097 := by omega
  obtain ⟨early, started, ended⟩ := yearStart_bounds inCycle rfl
  refine ⟨
    { cycle := (day + epochOffset) / daysPerCycle
      yearOfCycle := _
      dayOfYear := ((day + epochOffset) % daysPerCycle).toNat - yearStart _
      inCycle := early
      inYear := Nat.sub_lt_sub_right started ended
      counted := ?_ }, ?_⟩
  · have whole := Int.mul_ediv_add_emod (day + epochOffset) daysPerCycle
    rw [Int.mul_comm] at whole
    omega
  · have noCycle : ∀ year : Nat, year < 400 →
        yearStart year = 365 * year + year / 4 - year / 100 := by
      intro year bound
      unfold yearStart
      omega
    simp only [Reckoning.date, Reckoning.month, Reckoning.monthFromMarch, noCycle _ early]
    rfl

theorem yearLength_le (yearOfCycle : Nat) (inCycle : yearOfCycle < 400) :
    yearStart (yearOfCycle + 1) - yearStart yearOfCycle ≤ 366 := by
  unfold yearStart
  omega

/-- The day of a day's date is the day. -/
theorem toDay_ofDay (day : Int) : (ofDay day).toDay = day := by
  obtain ⟨reckoning, found⟩ := exists_reckoning day
  have long := yearLength_le _ reckoning.inCycle
  have inYear := reckoning.inYear
  have inCycle := reckoning.inCycle
  have counted := reckoning.counted
  have noCycle : reckoning.yearOfCycle / 400 = 0 := by omega
  have monthStart :
      (153 * reckoning.monthFromMarch + 2) / 5 ≤ reckoning.dayOfYear ∧
        reckoning.monthFromMarch ≤ 11 := by
    unfold Reckoning.monthFromMarch
    omega
  have yearBack : (if reckoning.month ≤ 2 then reckoning.date.year - 1 else reckoning.date.year) =
      reckoning.yearOfCycle + reckoning.cycle * 400 := by
    simp only [Reckoning.date]
    split <;> omega
  have monthBack : (if reckoning.month ≤ 2 then (reckoning.month : Int) + 9
      else (reckoning.month : Int) - 3) = reckoning.monthFromMarch := by
    unfold Reckoning.month
    split <;> split <;> omega
  have cycleBack :
      ((reckoning.yearOfCycle : Int) + reckoning.cycle * 400) / 400 = reckoning.cycle := by
    omega
  have yearOfCycleBack :
      ((reckoning.yearOfCycle : Int) + reckoning.cycle * 400) % 400 = reckoning.yearOfCycle := by
    omega
  rw [found, toDay]
  simp only [show reckoning.date.month = reckoning.month from rfl, yearBack, monthBack, cycleBack,
    yearOfCycleBack]
  simp only [Reckoning.date]
  unfold yearStart at counted
  omega

/-- The days of a month that is not February, which ends the year counted from March. -/
theorem dayOfMonth_le {dayOfYear monthFromMarch : Nat}
    (found : monthFromMarch = (5 * dayOfYear + 2) / 153) (early : monthFromMarch < 11)
    (year : Int) :
    dayOfYear - (153 * monthFromMarch + 2) / 5 + 1 ≤
      daysInMonth year
        (if monthFromMarch < 10 then monthFromMarch + 3 else monthFromMarch - 9) := by
  have months : monthFromMarch = 0 ∨ monthFromMarch = 1 ∨ monthFromMarch = 2 ∨
      monthFromMarch = 3 ∨ monthFromMarch = 4 ∨ monthFromMarch = 5 ∨ monthFromMarch = 6 ∨
      monthFromMarch = 7 ∨ monthFromMarch = 8 ∨ monthFromMarch = 9 ∨ monthFromMarch = 10 := by
    omega
  rcases months with rfl | rfl | rfl | rfl | rfl | rfl | rfl | rfl | rfl | rfl | rfl <;>
    simp [daysInMonth] <;> omega

/-- The date of a day is one that the calendar has. -/
theorem isValid_ofDay (day : Int) : (ofDay day).isValid = true := by
  obtain ⟨reckoning, found⟩ := exists_reckoning day
  have long := yearLength_le _ reckoning.inCycle
  have inYear := reckoning.inYear
  have months : reckoning.monthFromMarch = (5 * reckoning.dayOfYear + 2) / 153 := rfl
  rw [found, isValid, Bool.and_eq_true]
  refine ⟨by simp [Reckoning.date], decide_eq_true ?_⟩
  by_cases early : reckoning.monthFromMarch < 11
  · exact dayOfMonth_le months early _
  · have last : reckoning.monthFromMarch = 11 := by omega
    simp only [Reckoning.date, Reckoning.month, last, daysInMonth]
    by_cases leapDay : reckoning.dayOfYear = 365
    · have leap := isLeapYear_of_long reckoning.inCycle (by omega) reckoning.cycle
      simp [leap, leapDay]
    · simp only [Nat.reduceLT, Nat.reduceSub, Nat.le_refl, ↓reduceIte]
      split <;> omega

theorem month_ofDay (day : Int) : 1 ≤ (ofDay day).month ∧ (ofDay day).month ≤ 12 := by
  obtain ⟨reckoning, found⟩ := exists_reckoning day
  have long := yearLength_le _ reckoning.inCycle
  have inYear := reckoning.inYear
  have months : reckoning.monthFromMarch = (5 * reckoning.dayOfYear + 2) / 153 := rfl
  rw [found]
  simp only [Reckoning.date, Reckoning.month]
  split <;> omega

theorem day_ofDay_le (day : Int) : (ofDay day).day ≤ 31 := by
  have valid := isValid_ofDay day
  have most : ∀ year month, daysInMonth year month ≤ 31 := by
    intro year month
    unfold daysInMonth
    split
    · split <;> decide
    all_goals decide
  simp only [isValid, Bool.and_eq_true, decide_eq_true_eq] at valid
  exact Nat.le_trans valid.2 (most _ _)

end CalendarDate

end Intake
