import ContactPlan.Instant.Calendar

/-
This file shows that every day has one date and that the date leads back to the day.
Inside the count a year begins in March, so that a leap day is the last day of its year.
-/

namespace ContactPlan.CivilDate

/-- The days of a cycle that come before one of its years. -/
def daysBefore (year : Nat) : Nat := 365 * year + year / 4 - year / 100

/-- Leap days are taken out of the days before they are divided into years. -/
def yearOfDay (day : Nat) : Nat := (day - day / 1460 + day / 36524 - day / 146096) / 365

/-- The months of a year from March on take turns in their lengths. -/
def monthOfDay (day : Nat) : Nat := (5 * day + 2) / 153

def daysBeforeMonth (month : Nat) : Nat := (153 * month + 2) / 5

/-- In each of the first four centuries of a cycle, a day lies in the year that is found for it. -/
theorem yearOfDay_of_century {day century : Nat} (inCycle : century < 4)
    (first : 36524 * century ≤ day) (last : day < 36524 * (century + 1)) :
    yearOfDay day / 100 = century ∧ daysBefore (yearOfDay day) ≤ day ∧
      day ≤ daysBefore (yearOfDay day) + 365 := by
  have notLast : day / 146096 = 0 := by omega
  have isCentury : day / 36524 = century := by omega
  unfold daysBefore
  generalize found : yearOfDay day = year
  unfold yearOfDay at found
  rw [notLast, isCentury] at found
  have sameCentury : year / 100 = century := by omega
  rw [sameCentury]
  exact ⟨rfl, by omega, by omega⟩

/-- The last day of a cycle is the leap day of its last year. -/
theorem yearOfDay_spec {day : Nat} (inCycle : day < 146097) :
    yearOfDay day < 400 ∧ daysBefore (yearOfDay day) ≤ day ∧
      day ≤ daysBefore (yearOfDay day) + 365 := by
  by_cases last : day = 146096
  · rw [last]
    decide
  · have century : day / 36524 < 4 := by omega
    have found := yearOfDay_of_century century (Nat.mul_div_le day 36524)
      (Nat.lt_mul_div_succ day (by decide))
    exact ⟨by omega, found.2⟩

/-- Every day of a year lies in one of its twelve months. -/
theorem monthOfDay_spec {day : Nat} (inYear : day ≤ 365) :
    monthOfDay day < 12 ∧ daysBeforeMonth (monthOfDay day) ≤ day ∧
      day < daysBeforeMonth (monthOfDay day) + 31 := by
  unfold monthOfDay daysBeforeMonth
  omega

/-- A date of the count in years from March on is moved to years from January on. -/
def ofParts (year : Int) (month day : Nat) : CivilDate :=
  let civilMonth := if month < 10 then month + 3 else month - 9
  ⟨if civilMonth ≤ 2 then year + 1 else year, civilMonth, day + 1⟩

/-- The number of a date counts its cycles, years, months and days. -/
theorem dayNumber_ofParts {cycle : Int} {year month : Nat} (inCycle : year < 400)
    (inYear : month < 12) (day : Nat) :
    (ofParts (cycle * 400 + year) month day).dayNumber =
      cycle * 146097 + daysBefore year + daysBeforeMonth month + day - 719468 := by
  have sameCycle : (cycle * 400 + year) / 400 = cycle := by omega
  have sameYear : ((cycle * 400 + year) % 400).toNat = year := by omega
  unfold ofParts dayNumber daysBefore daysBeforeMonth
  by_cases early : month < 10
  · have notNext : ¬month + 3 ≤ 2 := by omega
    have sameMonth : (month + 3 + 9) % 12 = month := by omega
    simp only [if_pos early, if_neg notNext, sameMonth, sameCycle, sameYear]
    omega
  · have next : month - 9 ≤ 2 := by omega
    have sameMonth : (month - 9 + 9) % 12 = month := by omega
    simp only [if_neg early, if_pos next, Int.add_sub_cancel, sameMonth, sameCycle, sameYear]
    omega

/-- The parts of a day are its cycle, the year in it, the month and the day in the month. -/
theorem ofDayNumber_eq_ofParts {dayNumber : Int} {day dayOfYear : Nat}
    (isDay : ((dayNumber + 719468) % 146097).toNat = day)
    (isDayOfYear : day - daysBefore (yearOfDay day) = dayOfYear) :
    ofDayNumber dayNumber =
      ofParts ((dayNumber + 719468) / 146097 * 400 + yearOfDay day) (monthOfDay dayOfYear)
        (dayOfYear - daysBeforeMonth (monthOfDay dayOfYear)) := by
  subst isDay isDayOfYear
  rfl

/-- To count the days to the date of a day leads to the day. -/
theorem dayNumber_ofDayNumber (dayNumber : Int) :
    (ofDayNumber dayNumber).dayNumber = dayNumber := by
  generalize isDay : ((dayNumber + 719468) % 146097).toNat = day
  obtain ⟨yearInCycle, fromYear, toYear⟩ := yearOfDay_spec (show day < 146097 by omega)
  generalize isDayOfYear : day - daysBefore (yearOfDay day) = dayOfYear
  obtain ⟨monthInYear, fromMonth, -⟩ := monthOfDay_spec (show dayOfYear ≤ 365 by omega)
  rw [ofDayNumber_eq_ofParts isDay isDayOfYear, dayNumber_ofParts yearInCycle monthInYear]
  omega

/-- Months and days of a month are counted from one, and no year is below zero from 1970 on. -/
theorem range_ofDayNumber {dayNumber : Int} (notBefore : 0 ≤ dayNumber) :
    let date := ofDayNumber dayNumber
    0 ≤ date.year ∧ (1 ≤ date.month ∧ date.month ≤ 12) ∧ 1 ≤ date.day ∧ date.day ≤ 31 := by
  intro date
  generalize isDay : ((dayNumber + 719468) % 146097).toNat = day
  obtain ⟨-, fromYear, toYear⟩ := yearOfDay_spec (show day < 146097 by omega)
  generalize isDayOfYear : day - daysBefore (yearOfDay day) = dayOfYear
  obtain ⟨monthInYear, -, toMonth⟩ := monthOfDay_spec (show dayOfYear ≤ 365 by omega)
  have parts := ofDayNumber_eq_ofParts isDay isDayOfYear
  simp only [date, parts, ofParts]
  refine ⟨?_, ?_, by omega, by omega⟩
  · split <;> omega
  · split <;> omega

/-- Every day has a date. -/
theorem exists_ofDayNumber (dayNumber : Int) : (ofDayNumber dayNumber).Exists := by
  unfold Exists
  rw [dayNumber_ofDayNumber]

end ContactPlan.CivilDate
