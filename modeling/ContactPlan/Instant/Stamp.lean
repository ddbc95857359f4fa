import ContactPlan.Instant.Calendar
import ContactPlan.Text.Decimal

namespace ContactPlan

/-- An instant counts milliseconds since the start of 1970. -/
abbrev Instant := UInt64

/-- The last year that has a date is 262142. -/
def Instant.dateLimit : Nat := 8210266876800000

/-- Years above 9999 carry a sign. -/
def Instant.yearText (year : Int) : String :=
  if 9999 < year then "+" ++ Decimal.write year.toNat else Decimal.padded 4 year.toNat

def Instant.dateText (milliseconds : Nat) : String :=
  let date := CivilDate.ofDayNumber (milliseconds / 86400000 : Nat)
  Instant.yearText date.year ++ "-" ++ Decimal.padded 2 date.month ++ "-" ++
    Decimal.padded 2 date.day

def Instant.clockText (milliseconds : Nat) : String :=
  Decimal.padded 2 (milliseconds / 3600000 % 24) ++ ":" ++
    Decimal.padded 2 (milliseconds / 60000 % 60) ++ ":" ++
    Decimal.padded 2 (milliseconds / 1000 % 60) ++ "." ++ Decimal.padded 3 (milliseconds % 1000)

/-- An instant without a date is written as its number. -/
def Instant.text (instant : Instant) : String :=
  let milliseconds := instant.toNat
  if milliseconds < Instant.dateLimit then
    Instant.dateText milliseconds ++ "T" ++ Instant.clockText milliseconds ++ "Z"
  else Decimal.write milliseconds ++ "ms"

/-- An instant before 1970 is moved to its start. -/
def Instant.ofMilliseconds (milliseconds : Int) : Instant := UInt64.ofNat milliseconds.toNat

/-- A span is written as hours, minutes and seconds without its sign. -/
def Instant.elapsedText (milliseconds : Int) : String :=
  let seconds := milliseconds.natAbs / 1000
  Decimal.padded 2 (seconds / 3600) ++ ":" ++ Decimal.padded 2 (seconds / 60 % 60) ++ ":" ++
    Decimal.padded 2 (seconds % 60)

/-- A delay ends at once when its end has passed. -/
def Instant.delayUntil (instant now : Instant) : Nat := instant.toNat - now.toNat

end ContactPlan
