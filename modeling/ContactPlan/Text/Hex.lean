namespace ContactPlan.Hex

/-- Digits above nine are small letters. -/
def digitChar (digit : Nat) : Char :=
  if digit < 10 then Char.ofNat (48 + digit) else Char.ofNat (87 + digit)

/-- Letters of either case are digits. -/
def digitValue? (character : Char) : Option Nat :=
  if '0' ≤ character ∧ character ≤ '9' then some (character.toNat - 48)
  else if 'a' ≤ character ∧ character ≤ 'f' then some (character.toNat - 87)
  else if 'A' ≤ character ∧ character ≤ 'F' then some (character.toNat - 55)
  else none

/-- The upper half of a byte stands first. -/
def pair (byte : UInt8) : List Char :=
  [digitChar (byte.toNat / 16), digitChar (byte.toNat % 16)]

/-- Every byte is written with two lower case digits. -/
def write (bytes : List UInt8) : String := String.ofList (bytes.flatMap pair)

/-- Every byte has two digits. -/
def read? : List Char → Option (List UInt8)
  | [] => some []
  | [_] => none
  | high :: low :: rest =>
      match digitValue? high, digitValue? low, read? rest with
      | some highDigit, some lowDigit, some bytes =>
          some (UInt8.ofNat (16 * highDigit + lowDigit) :: bytes)
      | _, _, _ => none

end ContactPlan.Hex
