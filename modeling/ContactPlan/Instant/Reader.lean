import ContactPlan.Instant.Stamp
import ContactPlan.Text.Blank

/-
This file reads timestamps in the relaxed form that people write.
Blanks may stand around every part of a date and a time, and short numbers are allowed.
-/

namespace ContactPlan.Timestamp

/-- A reader takes a value from the front of a text. -/
abbrev Reader (Value : Type) := List Char → Option (Value × List Char)

/-- A number has one digit at least and takes no more digits than allowed. -/
def number (limit : Nat) (text : List Char) : Option (Nat × List Char) :=
  let digits := (text.takeWhile Decimal.isDigit).take limit
  (Decimal.read? digits).map (·, text.drop digits.length)

/-- Blanks before a number are skipped. -/
def field (limit : Nat) (text : List Char) : Option (Nat × List Char) :=
  number limit (Blank.skip text)

/-- A year with a sign has as many digits as it likes, any other at most four. -/
def year (text : List Char) : Option (Int × List Char) :=
  match Blank.skip text with
  | '-' :: rest => (number rest.length rest).map fun (value, rest) => (-(value : Int), rest)
  | '+' :: rest => (number rest.length rest).map fun (value, rest) => ((value : Int), rest)
  | rest => (number 4 rest).map fun (value, rest) => ((value : Int), rest)

/-- Blanks before a mark are skipped. -/
def mark (character : Char) (text : List Char) : Option (List Char) :=
  match Blank.skip text with
  | first :: rest => if first = character then some rest else none
  | [] => none

def date (text : List Char) : Option (CivilDate × List Char) := do
  let (year, text) ← year text
  let text ← mark '-' text
  let (month, text) ← field 2 text
  let text ← mark '-' text
  let (day, text) ← field 2 text
  return (⟨year, month, day⟩, text)

/-- A fraction is cut after three digits. -/
def fraction : List Char → Option (Nat × List Char)
  | '.' :: text => do
      let digits := text.takeWhile Decimal.isDigit
      let value ← Decimal.read? ((digits ++ ['0', '0']).take 3)
      if digits = [] then none else return (value, text.drop digits.length)
  | text => some (0, text)

/-- A time of day counts seconds, and the milliseconds of a leap second go on to 1999. -/
structure Clock where
  second : Nat
  millisecond : Nat

/-- Any minute may end in the leap second sixty. -/
def clock (text : List Char) : Option (Clock × List Char) := do
  let (hour, text) ← field 2 text
  let text ← mark ':' text
  let (minute, text) ← field 2 text
  let text ← mark ':' text
  let (second, text) ← field 2 text
  let (millisecond, text) ← fraction text
  if 23 < hour ∨ 59 < minute ∨ 60 < second then none
  else
    let leap := second - 59
    return (⟨(hour * 60 + minute) * 60 + second - leap, 1000 * leap + millisecond⟩, text)

def digitPair : List Char → Option (Nat × List Char)
  | tens :: ones :: rest => do
      let tens ← Decimal.digitValue? tens
      let ones ← Decimal.digitValue? ones
      return (10 * tens + ones, rest)
  | _ => none

/-- Colons and blanks may part the hours from the minutes, and the minutes are needed. -/
def offsetMinutes (text : List Char) : Option (Nat × List Char) := do
  let (hours, text) ← digitPair text
  let (minutes, text) ←
    digitPair (text.dropWhile fun character => character == ':' || Blank.isBlank character)
  if 59 < minutes ∨ 23 < hours then none else return (60 * hours + minutes, text)

/-- The offset is zero for Greenwich, and either minus sign counts. -/
def offset (text : List Char) : Option (Int × List Char) :=
  match Blank.skip text with
  | 'Z' :: rest => some (0, rest)
  | 'z' :: rest => some (0, rest)
  | '+' :: rest => (offsetMinutes rest).map fun (minutes, rest) => ((minutes : Int), rest)
  | '-' :: rest => (offsetMinutes rest).map fun (minutes, rest) => (-(minutes : Int), rest)
  | '\u2212' :: rest => (offsetMinutes rest).map fun (minutes, rest) => (-(minutes : Int), rest)
  | first :: second :: third :: rest =>
      if [first, second, third].map Char.toUpper = ['U', 'T', 'C'] then some (0, rest) else none
  | _ => none

/-- The years with a date go from -262143 to 262142. -/
def inCalendar (seconds : Int) : Bool :=
  -8334601228800 ≤ seconds && 1000 * seconds < Instant.dateLimit

/-- Both the local time and the time at Greenwich need a date. -/
def milliseconds (date : CivilDate) (clock : Clock) (offset : Int) : Option Int :=
  let localSeconds := 86400 * date.dayNumber + clock.second
  let seconds := localSeconds - 60 * offset
  if date.Exists ∧ inCalendar localSeconds ∧ inCalendar seconds then
    some (1000 * seconds + clock.millisecond)
  else none

def separator : List Char → Option (List Char)
  | 'T' :: rest => some rest
  | 't' :: rest => some rest
  | ' ' :: rest => some rest
  | _ => none

/-- The text has to end after the offset. -/
def read? (text : List Char) : Option Int := do
  let (date, text) ← date text
  let text ← separator text
  let (clock, text) ← clock text
  let (offset, text) ← offset text
  if Blank.skip text = [] then milliseconds date clock offset else none

end ContactPlan.Timestamp

namespace ContactPlan

/-- A time before 1970 reads as the start of 1970. -/
def Instant.ofText? (text : String) : Option Instant :=
  (Timestamp.read? text.toList).map Instant.ofMilliseconds

end ContactPlan
