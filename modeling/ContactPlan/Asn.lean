import ContactPlan.Text.BigEndian
import ContactPlan.Text.Decimal

namespace ContactPlan

/-- A number names one autonomous system. -/
abbrev Asn := UInt32

/-- The four bytes of a number stand most significant first. -/
def Asn.octets (asn : Asn) : List UInt8 := BigEndian.write 4 asn.toNat

/-- The upper half of a number, which stands before the dot. -/
def Asn.high (asn : Asn) : Nat := BigEndian.read (asn.octets.take 2)

/-- The lower half of a number, which stands behind the dot. -/
def Asn.low (asn : Asn) : Nat := BigEndian.read (asn.octets.drop 2)

/-- A number below 65535 is written plainly and any other as its two halves. -/
def Asn.textWith (asn : Asn) (separator : Char) : String :=
  if asn.toNat < 65535 then Decimal.write asn.toNat
  else Decimal.write asn.high ++ separator.toString ++ Decimal.write asn.low

def Asn.text (asn : Asn) : String := asn.textWith '.'

/-- Numbers on a path are separated by single spaces. -/
def Asn.pathText (path : List Asn) : String := " ".intercalate (path.map Asn.text)

/-- The first dot parts the two halves, and without a dot the number is plain. -/
def Asn.read? (text : List Char) : Option Asn :=
  match text.dropWhile (· ≠ '.') with
  | [] => (Decimal.readBelow? UInt32.size text).map UInt32.ofNat
  | _ :: lower =>
      match Decimal.readBelow? UInt16.size (text.takeWhile (· ≠ '.')),
          Decimal.readBelow? UInt16.size lower with
      | some high, some low => some (UInt32.ofNat (65536 * high + low))
      | _, _ => none

def Asn.ofText? (text : String) : Option Asn := Asn.read? text.toList

/-- A text that names no number is quoted in the complaint. -/
def Asn.complaint (text : String) : String := "Invalid ASN: '" ++ text ++ "'"

def Asn.parse (text : String) : Except String Asn :=
  match Asn.ofText? text with
  | some asn => .ok asn
  | none => .error (Asn.complaint text)

end ContactPlan
