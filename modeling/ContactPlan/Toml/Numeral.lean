import ContactPlan.Text.Decimal
import ContactPlan.Text.Fields
import ContactPlan.Text.Hex
import ContactPlan.Toml.Value

/-
This file reads the numbers and moments of TOML documents, which are bare words.
Marks that cannot be part of a word go on with the word behind them.
-/

namespace ContactPlan.Toml

def isWordCharacter (character : Char) : Bool :=
  ('A' ≤ character && character ≤ 'Z') || ('a' ≤ character && character ≤ 'z') ||
    Decimal.isDigit character || character == '-' || character == '_'

/-- A word goes as far as it can. -/
def word? (text : List Char) : Option (List Char × List Char) :=
  match text.takeWhile isWordCharacter with
  | [] => none
  | word => some (word, text.dropWhile isWordCharacter)

/-- A mark that is not there is no fault. -/
def skipMark (mark : Char) : List Char → List Char
  | [] => []
  | first :: rest => if first = mark then rest else first :: rest

namespace Numeral

def isDigitOf (base : Nat) (character : Char) : Bool :=
  (Hex.digitValue? character).any (· < base)

/-- Single underscores may stand between digits. -/
def digits? (base : Nat) (leadingZeros : Bool) (text : List Char) :
    Option (List Char × List Char) :=
  let run := text.takeWhile fun character => isDigitOf base character || character == '_'
  if (Fields.split '_' run).all (fun field => !field.isEmpty) &&
      (leadingZeros || run.length == 1 || run.head? != some '0') then
    some (run.filter (· ≠ '_'), text.drop run.length)
  else none

/-- A minus sign may stand before the digits. -/
def signedDigits? (leadingZeros : Bool) : List Char → Option (Bool × List Char × List Char)
  | '-' :: text => (digits? 10 leadingZeros text).map (true, ·)
  | text => (digits? 10 leadingZeros text).map (false, ·)

def value (base : Nat) (digits : List Char) : Nat :=
  digits.foldl (fun value digit => base * value + (Hex.digitValue? digit).getD 0) 0

/-- An integer has 64 bits with its sign. -/
def integer? (value : Int) : Option Value :=
  if Int64.minValue.toInt ≤ value ∧ value ≤ Int64.maxValue.toInt then some (.integer value)
  else none

/-- Zeros may lead a number with a base of its own. -/
def unsigned? (base : Nat) (text : List Char) : Option Value :=
  match digits? base true text with
  | some (digits, []) => integer? (value base digits)
  | _ => none

def decimal? (text : List Char) : Option Value :=
  match signedDigits? false text with
  | some (negative, digits, []) =>
      integer? (if negative then -(value 10 digits : Int) else value 10 digits)
  | _ => none

/-- A decimal from this bound on is not rounded to a finite double. -/
def finiteBound : Nat := Nat.pow 2 1024 - Nat.pow 2 970

/-- The number of digits decides unless it is close to the bound. -/
def isFinite (significand : Nat) (exponent : Int) : Bool :=
  let magnitude := (Decimal.digits significand).length + exponent
  if significand = 0 ∨ magnitude < 308 then true
  else if 310 < magnitude then false
  else significand * Nat.pow 10 exponent.toNat < finiteBound * Nat.pow 10 (-exponent).toNat

/-- A plus sign before the exponent parts it from its mark. -/
def exponent? : List Char → List Char → Option (Int × List Char)
  | [], rest => some (0, rest)
  | [mark], rest => do
      if mark ≠ 'e' ∧ mark ≠ 'E' then none
      let (word, rest) ← word? (skipMark '+' rest)
      match digits? 10 true word with
      | some (digits, []) => return (value 10 digits, rest)
      | _ => none
  | mark :: word, rest => do
      if mark ≠ 'e' ∧ mark ≠ 'E' then none
      match signedDigits? true word with
      | some (negative, digits, []) =>
          return (if negative then -(value 10 digits : Int) else value 10 digits, rest)
      | _ => none

def finiteFloat? (significand : List Char) (places : Nat) (suffix rest : List Char) :
    Option (Value × List Char) := do
  let (exponent, rest) ← exponent? suffix rest
  if isFinite (value 10 significand) (exponent - places) then some (.float, rest) else none

/-- An integral part is followed by an exponent. -/
def float? (word rest : List Char) : Option (Value × List Char) := do
  let (_, integral, suffix) ← signedDigits? false word
  finiteFloat? integral 0 suffix rest

/-- A fraction stands between an integral part and an exponent, which may be missing. -/
def fractional? (word fraction rest : List Char) : Option (Value × List Char) := do
  match ← signedDigits? false word with
  | (_, integral, []) =>
      let (digits, suffix) ← digits? 10 true fraction
      finiteFloat? (integral ++ digits) digits.length suffix rest
  | _ => none

/-- The numbers that are not finite have names, which may carry a sign. -/
def isSpecial (word : List Char) : Bool :=
  word ∈ ["inf".toList, "-inf".toList, "nan".toList, "-nan".toList]

/-- The base is told by the letter behind a first zero. -/
def read? (word rest : List Char) : Option (Value × List Char) :=
  match word with
  | '0' :: 'x' :: digits => (unsigned? 16 digits).map (·, rest)
  | '0' :: 'o' :: digits => (unsigned? 8 digits).map (·, rest)
  | '0' :: 'b' :: digits => (unsigned? 2 digits).map (·, rest)
  | _ =>
      if word.contains 'e' || word.contains 'E' then float? word rest
      else
        match rest with
        | '.' :: rest => (word? rest).bind fun (fraction, rest) => fractional? word fraction rest
        | _ =>
            if isSpecial word then some (.float, rest)
            else (decimal? word).map (·, rest)

end Numeral

namespace Moment

/-- A date and a time may be parted by one blank. -/
def skipDay : List Char → List Char
  | ' ' :: rest =>
      match word? rest with
      | some (_, rest) => rest
      | none => ' ' :: rest
  | text => text

def wordAfter? (mark : Char) : List Char → Option (List Char)
  | [] => none
  | first :: rest => if first = mark then (word? rest).map Prod.snd else none

/-- A part that is announced by its mark has to follow. -/
def optional? (mark : Char) (text : List Char) : Option (List Char) :=
  if text.head? = some mark then wordAfter? mark text else some text

/-- The minutes are followed by seconds, and fraction and offset may be missing. -/
def minutes? (text : List Char) : Option (List Char) := do
  let (_, text) ← word? text
  let text ← wordAfter? ':' text
  let text ← optional? '.' text
  let text ← optional? '+' text
  optional? ':' text

/-- The parts of a moment are found but not checked. -/
def read? (text : List Char) : Option (Value × List Char) :=
  match skipDay text with
  | ':' :: rest => (minutes? rest).map (.moment, ·)
  | rest => some (.moment, rest)

/-- The first colon has been taken. -/
def readTime? (text : List Char) : Option (Value × List Char) :=
  (minutes? (skipDay text)).map (.moment, ·)

end Moment

/-- Two characters that stand next to each other. -/
def hasPair (left right : Char) : List Char → Bool
  | first :: second :: rest =>
      (first == left && second == right) || hasPair left right (second :: rest)
  | _ => false

/-- A word with a hyphen inside is a moment unless the hyphen belongs to an exponent. -/
def isMomentWord : List Char → Bool
  | [] => false
  | first :: rest =>
      let word := first :: rest
      word.contains 'T' || word.contains 't' ||
        (rest.contains '-' && !hasPair 'e' '-' word && !hasPair 'E' '-' word)

/-- A number starts with a digit or a sign unless it has a name. -/
def isNumberWord (word : List Char) : Bool :=
  word = "inf".toList || word = "nan".toList ||
    word.head?.any fun character => character == '-' || Decimal.isDigit character

/-- A word that is neither a number nor a moment has no value. -/
def readNumber? (word rest : List Char) : Option (Value × List Char) :=
  if !isNumberWord word then none
  else if isMomentWord word then Moment.read? rest
  else
    match rest with
    | ':' :: rest => Moment.readTime? rest
    | _ => Numeral.read? word rest

end ContactPlan.Toml
