import ContactPlan.Text.Decimal
import ContactPlan.Text.Fields

namespace ContactPlan

/-- An address of 32 bits. -/
structure Ipv4 where
  bits : UInt32
  deriving DecidableEq

/-- The unspecified address has no bit set. -/
def Ipv4.unspecified : Ipv4 := ⟨0⟩

def Ipv4.ofOctets (first second third fourth : Nat) : Ipv4 :=
  ⟨UInt32.ofNat (((first * 256 + second) * 256 + third) * 256 + fourth)⟩

/-- The octet stands at the given place, counted from the last one. -/
def Ipv4.octet (address : Ipv4) (place : Nat) : Nat := address.bits.toNat / Nat.pow 256 place % 256

/-- An address is written as its octets with dots between them. -/
def Ipv4.text (address : Ipv4) : String :=
  ".".intercalate ([3, 2, 1, 0].map fun place => Decimal.write (address.octet place))

/-- An octet has at most three digits, no needless zero in front, and is below 256. -/
def Ipv4.readOctet? : List Char → Option Nat
  | ['0'] => some 0
  | '0' :: _ => none
  | numeral =>
      if numeral.length ≤ 3 then (Decimal.read? numeral).filter (· < 256) else none

/-- An address has four octets and nothing else. -/
def Ipv4.read? (text : List Char) : Option Ipv4 :=
  match (Fields.split '.' text).map Ipv4.readOctet? with
  | [some first, some second, some third, some fourth] =>
      some (Ipv4.ofOctets first second third fourth)
  | _ => none

def Ipv4.ofText? (text : String) : Option Ipv4 := Ipv4.read? text.toList

end ContactPlan
