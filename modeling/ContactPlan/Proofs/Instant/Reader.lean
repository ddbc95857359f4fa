import ContactPlan.Instant.Reader
import ContactPlan.Proofs.Instant.Calendar
import ContactPlan.Proofs.Text.Decimal
import ContactPlan.Proofs.Text.Stops

namespace ContactPlan

/-- A digit is no blank. -/
theorem Blank.not_isBlank_of_isDigit {character : Char} (isDigit : Decimal.isDigit character) :
    ¬Blank.isBlank character := by
  have range := Decimal.toNat_of_isDigit isDigit
  simp [Blank.isBlank]
  omega

/-- Nothing is skipped before a character that is not blank. -/
theorem Blank.skip_cons {character : Char} (notBlank : ¬Blank.isBlank character)
    (rest : List Char) : Blank.skip (character :: rest) = character :: rest :=
  List.dropWhile_cons_of_neg notBlank

namespace Timestamp

open Text

variable {numeral rest : List Char} {limit value : Nat}

/-- A number is read up to the next character that is no digit. -/
theorem number_append (read : Decimal.read? numeral = some value) (short : numeral.length ≤ limit)
    (stops : Stops Decimal.isDigit rest) : number limit (numeral ++ rest) = some (value, rest) := by
  have digits := (Decimal.isDigit_of_read? read).2
  simp only [number, takeWhile_append digits stops, List.take_of_length_le short, read,
    Option.map_some, List.drop_left]

/-- No blanks are written in front of a number. -/
theorem skip_append (read : Decimal.read? numeral = some value) (rest : List Char) :
    Blank.skip (numeral ++ rest) = numeral ++ rest := by
  obtain ⟨nonempty, digits⟩ := Decimal.isDigit_of_read? read
  exact dropWhile_of_apart nonempty digits (fun _ => Blank.not_isBlank_of_isDigit) rest

/-- A field without blanks is read like a number. -/
theorem field_append (read : Decimal.read? numeral = some value) (short : numeral.length ≤ limit)
    (stops : Stops Decimal.isDigit rest) : field limit (numeral ++ rest) = some (value, rest) := by
  rw [field, skip_append read, number_append read short stops]

/-- Zeros in front of a field do not count. -/
theorem field_padded {width : Nat} (fits : value < Nat.pow 10 (width + 1))
    (stops : Stops Decimal.isDigit rest) :
    field (width + 1) ((Decimal.padded (width + 1) value).toList ++ rest) = some (value, rest) :=
  field_append (Decimal.read?_padded _ value) (Nat.le_of_eq (Decimal.length_padded fits)) stops

/-- A mark is read where it stands. -/
theorem mark_cons {character : Char} (notBlank : ¬Blank.isBlank character) (rest : List Char) :
    mark character (character :: rest) = some rest := by
  rw [mark, Blank.skip_cons notBlank]
  exact if_pos rfl

/-- A year with four digits does not start with a sign. -/
theorem year_append (read : Decimal.read? numeral = some value) (short : numeral.length ≤ 4)
    (stops : Stops Decimal.isDigit rest) : year (numeral ++ rest) = some ((value : Int), rest) := by
  obtain ⟨nonempty, digits⟩ := Decimal.isDigit_of_read? read
  have other {sign : Char} (notDigit : ¬Decimal.isDigit sign) :=
    append_ne_cons nonempty digits notDigit rest
  unfold year
  rw [skip_append read]
  split
  next same => exact absurd same (other (by decide) _)
  next same => exact absurd same (other (by decide) _)
  next => rw [number_append read short stops, Option.map_some]

/-- The sign of a later year allows it to have more digits. -/
theorem year_yearText {date : Int} (notNegative : 0 ≤ date) (stops : Stops Decimal.isDigit rest) :
    year ((Instant.yearText date).toList ++ rest) = some (date, rest) := by
  have isYear : (date.toNat : Int) = date := Int.toNat_of_nonneg notNegative
  unfold Instant.yearText
  split
  · have read := Decimal.read?_digits date.toNat
    have whole : ("+" ++ Decimal.write date.toNat).toList = '+' :: Decimal.digits date.toNat := by
      simp [Decimal.write]
    have fits : (Decimal.digits date.toNat).length ≤
        (Decimal.digits date.toNat ++ rest).length := by simp
    rw [whole, List.cons_append, year, Blank.skip_cons (by decide)]
    simp only [number_append read fits stops, Option.map_some, isYear]
  · have read := Decimal.read?_padded 4 date.toNat
    have short : (Decimal.padded 4 date.toNat).toList.length ≤ 4 :=
      Nat.le_of_eq (Decimal.length_padded (show date.toNat < 10000 by omega))
    rw [year_append read short stops, isYear]

/-- A mark stands behind a part that is written in front of it. -/
theorem field_padded_mark {width : Nat} {character : Char} (fits : value < Nat.pow 10 (width + 1))
    (notDigit : ¬Decimal.isDigit character) (rest : List Char) :
    field (width + 1) ((Decimal.padded (width + 1) value).toList ++ character :: rest) =
      some (value, character :: rest) :=
  field_padded fits (stops_cons notDigit rest)

/-- Every part of a date is read up to the dash behind it. -/
theorem date_append {found : CivilDate} (notNegative : 0 ≤ found.year) (month : found.month ≤ 12)
    (day : found.day ≤ 31) (stops : Stops Decimal.isDigit rest) :
    date ((Instant.yearText found.year ++ "-" ++ Decimal.padded 2 found.month ++ "-" ++
      Decimal.padded 2 found.day).toList ++ rest) = some (found, rest) := by
  have monthFits : found.month < Nat.pow 10 2 := Nat.lt_of_le_of_lt month (by decide)
  have dayFits : found.day < Nat.pow 10 2 := Nat.lt_of_le_of_lt day (by decide)
  have dash : "-".toList = ['-'] := rfl
  have dashStops : ¬Decimal.isDigit '-' := by decide
  simp only [String.toList_append, dash, List.append_assoc, List.cons_append, List.nil_append]
  simp only [date, year_yearText notNegative (stops_cons dashStops _), Option.bind_eq_bind,
    Option.bind_some, mark_cons (show ¬Blank.isBlank '-' by decide),
    field_padded_mark monthFits dashStops, field_padded dayFits stops]
  rfl

/-- A date is read as the day that it was written for. -/
theorem date_dateText (milliseconds : Nat) (stops : Stops Decimal.isDigit rest) :
    date ((Instant.dateText milliseconds).toList ++ rest) =
      some (CivilDate.ofDayNumber (milliseconds / 86400000 : Nat), rest) :=
  have range := CivilDate.range_ofDayNumber (Int.natCast_nonneg (milliseconds / 86400000))
  date_append range.1 range.2.1.2 range.2.2.2 stops

/-- Three digits of a fraction are milliseconds. -/
theorem fraction_padded (fits : value < 1000) (stops : Stops Decimal.isDigit rest) :
    fraction ('.' :: ((Decimal.padded 3 value).toList ++ rest)) = some (value, rest) := by
  have read := Decimal.read?_padded 3 value
  have three : (Decimal.padded 3 value).toList.length = 3 := Decimal.length_padded fits
  obtain ⟨nonempty, digits⟩ := Decimal.isDigit_of_read? read
  generalize (Decimal.padded 3 value).toList = numeral at *
  have taken : (numeral ++ ['0', '0']).take 3 = numeral := by
    rw [← three, List.take_left]
  simp only [fraction, takeWhile_append digits stops, taken, read, Option.bind_eq_bind,
    Option.bind_some, if_neg nonempty, List.drop_left]
  rfl

/-- The parts of a time of day make up the milliseconds of the day. -/
theorem clock_clockText (milliseconds : Nat) (stops : Stops Decimal.isDigit rest) :
    clock ((Instant.clockText milliseconds).toList ++ rest) =
      some (⟨milliseconds / 1000 % 86400, milliseconds % 1000⟩, rest) := by
  have hour : milliseconds / 3600000 % 24 < Nat.pow 10 2 := show _ < 100 by omega
  have minute : milliseconds / 60000 % 60 < Nat.pow 10 2 := show _ < 100 by omega
  have second : milliseconds / 1000 % 60 < Nat.pow 10 2 := show _ < 100 by omega
  have millisecond : milliseconds % 1000 < 1000 := Nat.mod_lt _ (by decide)
  have inDay : ¬(23 < milliseconds / 3600000 % 24 ∨ 59 < milliseconds / 60000 % 60 ∨
      60 < milliseconds / 1000 % 60) := by omega
  have noLeap : milliseconds / 1000 % 60 - 59 = 0 := by omega
  have colon : ":".toList = [':'] := rfl
  have point : ".".toList = ['.'] := rfl
  unfold Instant.clockText
  simp only [String.toList_append, colon, point, List.append_assoc, List.cons_append,
    List.nil_append]
  simp only [clock, mark_cons (show ¬Blank.isBlank ':' by decide), Option.bind_eq_bind,
    Option.bind_some, field_padded_mark hour (show ¬Decimal.isDigit ':' by decide),
    field_padded_mark minute (show ¬Decimal.isDigit ':' by decide),
    field_padded_mark second (show ¬Decimal.isDigit '.' by decide),
    fraction_padded millisecond stops, if_neg inDay, noLeap]
  have seconds : (milliseconds / 3600000 % 24 * 60 + milliseconds / 60000 % 60) * 60 +
      milliseconds / 1000 % 60 - 0 = milliseconds / 1000 % 86400 := by omega
  rw [seconds, Nat.mul_zero, Nat.zero_add]
  rfl

/-- The date and the time of day of an instant lead back to it. -/
theorem milliseconds_ofDayNumber {instant : Nat} (hasDate : instant < Instant.dateLimit) :
    milliseconds (CivilDate.ofDayNumber (instant / 86400000 : Nat))
      ⟨instant / 1000 % 86400, instant % 1000⟩ 0 = some (instant : Int) := by
  have seconds : (86400 * (instant / 86400000 : Nat) + (instant / 1000 % 86400 : Nat) : Int) =
      (instant / 1000 : Nat) := by omega
  have inside : inCalendar (instant / 1000 : Nat) := by
    have first : (-8334601228800 : Int) ≤ (instant / 1000 : Nat) := by omega
    have last : (1000 * (instant / 1000 : Nat) : Int) < Instant.dateLimit := by omega
    simp only [inCalendar, first, last, decide_true, Bool.and_self]
  have total : (1000 * (instant / 1000 : Nat) + (instant % 1000 : Nat) : Int) = instant := by omega
  simp only [milliseconds, CivilDate.dayNumber_ofDayNumber, seconds, Int.mul_zero, Int.sub_zero,
    total]
  exact if_pos ⟨CivilDate.exists_ofDayNumber _, inside, inside⟩

/-- A date and a time of day that are read up to their marks make a timestamp. -/
theorem read?_append {day time : String} {found : CivilDate} {clockTime : Clock}
    (isDate : ∀ rest, Stops Decimal.isDigit rest → date (day.toList ++ rest) = some (found, rest))
    (isTime : ∀ rest, Stops Decimal.isDigit rest →
      clock (time.toList ++ rest) = some (clockTime, rest)) :
    read? (day ++ "T" ++ time ++ "Z").toList = milliseconds found clockTime 0 := by
  have letter : "T".toList = ['T'] := rfl
  have greenwich : "Z".toList = ['Z'] := rfl
  have letterStops : ¬Decimal.isDigit 'T' := by decide
  have greenwichStops : ¬Decimal.isDigit 'Z' := by decide
  have isOffset : offset ['Z'] = some (0, []) := rfl
  simp only [String.toList_append, letter, greenwich, List.append_assoc, List.cons_append,
    List.nil_append]
  simp only [read?, isDate _ (stops_cons letterStops _), separator,
    isTime _ (stops_cons greenwichStops _), isOffset, Option.bind_eq_bind, Option.bind_some]
  exact if_pos rfl

/-- The timestamp of an instant is read as its milliseconds. -/
theorem read?_stamp {instant : Nat} (hasDate : instant < Instant.dateLimit) :
    read? (Instant.dateText instant ++ "T" ++ Instant.clockText instant ++ "Z").toList =
      some (instant : Int) := by
  rw [read?_append (fun _ => date_dateText instant) (fun _ => clock_clockText instant),
    milliseconds_ofDayNumber hasDate]

end Timestamp

namespace Instant

variable {instant left right : Instant}

/-- An instant below the limit has a date. -/
theorem text_of_lt_dateLimit (hasDate : instant.toNat < dateLimit) :
    instant.text = dateText instant.toNat ++ "T" ++ clockText instant.toNat ++ "Z" := if_pos hasDate

/-- An instant from the limit on has no date and is written in milliseconds. -/
theorem text_of_dateLimit_le (noDate : dateLimit ≤ instant.toNat) :
    instant.text = Decimal.write instant.toNat ++ "ms" := if_neg (Nat.not_lt.mpr noDate)

/-- An instant with a date is read from its text. -/
theorem ofText?_text (hasDate : instant.toNat < dateLimit) :
    ofText? instant.text = some instant := by
  rw [ofText?, text_of_lt_dateLimit hasDate, Timestamp.read?_stamp hasDate, Option.map_some,
    ofMilliseconds, Int.toNat_natCast, UInt64.ofNat_toNat]

/-- The text of a date ends with the letter for Greenwich. -/
theorem text_ne_of_dateLimit_le (hasDate : left.toNat < dateLimit)
    (noDate : dateLimit ≤ right.toNat) : left.text ≠ right.text := by
  rw [text_of_lt_dateLimit hasDate, text_of_dateLimit_le noDate]
  intro same
  have letter : "Z".toList = ['Z'] := rfl
  have unit : "ms".toList = ['m', 's'] := rfl
  have sameEnd := congrArg (fun text => text.toList.getLast?) same
  simp only [String.toList_append, letter, unit, List.getLast?_append] at sameEnd
  exact absurd (show some 'Z' = some 's' from sameEnd) (by decide)

/-- No two instants are written alike, whether they have dates or not. -/
theorem text_injective (same : left.text = right.text) : left = right := by
  rcases Nat.lt_or_ge left.toNat dateLimit with leftHasDate | leftNoDate
  · rcases Nat.lt_or_ge right.toNat dateLimit with rightHasDate | rightNoDate
    · have read := ofText?_text leftHasDate
      rw [same, ofText?_text rightHasDate] at read
      exact (Option.some.inj read).symm
    · exact absurd same (text_ne_of_dateLimit_le leftHasDate rightNoDate)
  · rcases Nat.lt_or_ge right.toNat dateLimit with rightHasDate | rightNoDate
    · exact absurd same.symm (text_ne_of_dateLimit_le rightHasDate leftNoDate)
    · rw [text_of_dateLimit_le leftNoDate, text_of_dateLimit_le rightNoDate] at same
      have sameNumeral := (String.append_left_inj "ms").mp same
      exact UInt64.toNat_inj.mp (Decimal.write_injective sameNumeral)

end Instant

end ContactPlan
