/-
This file counts the days of the proleptic Gregorian calendar.
Day zero is the first of January 1970, and years begin in March inside the count.
-/

namespace ContactPlan

structure CivilDate where
  year : Int
  month : Nat
  day : Nat
  deriving DecidableEq

/-- A cycle of 400 years has 146097 days. -/
def CivilDate.ofDayNumber (dayNumber : Int) : CivilDate :=
  let shifted := dayNumber + 719468
  let cycle := shifted / 146097
  let dayOfCycle := (shifted % 146097).toNat
  let yearOfCycle :=
    (dayOfCycle - dayOfCycle / 1460 + dayOfCycle / 36524 - dayOfCycle / 146096) / 365
  let dayOfYear := dayOfCycle - (365 * yearOfCycle + yearOfCycle / 4 - yearOfCycle / 100)
  let monthFromMarch := (5 * dayOfYear + 2) / 153
  let month := if monthFromMarch < 10 then monthFromMarch + 3 else monthFromMarch - 9
  let year := cycle * 400 + yearOfCycle
  { year := if month ≤ 2 then year + 1 else year
    month := month
    day := dayOfYear - (153 * monthFromMarch + 2) / 5 + 1 }

def CivilDate.dayNumber (date : CivilDate) : Int :=
  let year := if date.month ≤ 2 then date.year - 1 else date.year
  let cycle := year / 400
  let yearOfCycle := (year % 400).toNat
  let monthFromMarch := (date.month + 9) % 12
  let dayOfYear : Int := (153 * monthFromMarch + 2) / 5 + date.day - 1
  cycle * 146097 + (365 * yearOfCycle + yearOfCycle / 4 - yearOfCycle / 100 : Nat) + dayOfYear -
    719468

/-- A date exists when counting to it and back returns to it. -/
def CivilDate.Exists (date : CivilDate) : Prop := CivilDate.ofDayNumber date.dayNumber = date

instance (date : CivilDate) : Decidable date.Exists := inferInstanceAs (Decidable (_ = _))

end ContactPlan
