/-
This file reads and writes decimal numerals.
A numeral is a non-empty list of ASCII digits, most significant first.
-/

namespace ContactPlan.Decimal

def digitChar (digit : Nat) : Char := Char.ofNat (48 + digit)

/-- Only the ten digits of decimal numerals have a value. -/
def digitValue? (character : Char) : Option Nat :=
  if '0' ≤ character ∧ character ≤ '9' then some (character.toNat - 48) else none

def isDigit (character : Char) : Bool := (digitValue? character).isSome

/-- The numeral has no leading zero, except that zero is one digit. -/
def digits (value : Nat) : List Char :=
  if value < 10 then [digitChar value]
  else digits (value / 10) ++ [digitChar (value % 10)]

def write (value : Nat) : String := String.ofList (digits value)

/-- Short numerals are filled up with leading zeros. -/
def padded (width value : Nat) : String :=
  let numeral := digits value
  String.ofList (List.replicate (width - numeral.length) '0' ++ numeral)

/-- Each digit multiplies the value before it by ten. -/
def extend? : Nat → List Char → Option Nat
  | value, [] => some value
  | value, character :: rest =>
      match digitValue? character with
      | some digit => extend? (10 * value + digit) rest
      | none => none

@[simp] theorem extend?_nil (value : Nat) : extend? value [] = some value := rfl

/-- Leading zeros are allowed and the empty text is not a numeral. -/
def read? : List Char → Option Nat
  | [] => none
  | numeral => extend? 0 numeral

@[simp] theorem read?_nil : read? [] = none := rfl

/-- One plus sign may stand before the numeral. -/
def readUnsigned? : List Char → Option Nat
  | '+' :: numeral => read? numeral
  | numeral => read? numeral

/-- The value has to be below the bound. -/
def readBelow? (bound : Nat) (text : List Char) : Option Nat :=
  (readUnsigned? text).filter (· < bound)

end ContactPlan.Decimal
