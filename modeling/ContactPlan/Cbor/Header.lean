import ContactPlan.Text.BigEndian
import ContactPlan.Text.Binary64

namespace ContactPlan.Cbor

/-- A header without a length opens an item that a break closes. -/
inductive Header where
  | unsigned (value : Nat)
  | negative (value : Nat)
  | bytes (length : Option Nat)
  | text (length : Option Nat)
  | array (length : Option Nat)
  | map (length : Option Nat)
  | tag (number : Nat)
  | simple (number : Nat)
  | float (value : Binary64)
  | stop

/-- A negative item stands for minus one minus its value, counted in 64 bits. -/
def negativeText (value : Nat) : String :=
  if 2 * value < UInt64.size then "-" ++ Decimal.write (value + 1)
  else Decimal.write (UInt64.size - 1 - value)

/-- The description names the kind of item and its value if it has a short one. -/
def Header.describe : Header → String
  | .unsigned value => "integer `" ++ Decimal.write value ++ "`"
  | .negative value => "integer `" ++ negativeText value ++ "`"
  | .bytes _ => "bytes"
  | .text _ => "string"
  | .array _ => "sequence"
  | .map _ => "map"
  | .tag _ => "tag"
  | .simple 20 => "boolean `false`"
  | .simple 21 => "boolean `true`"
  | .simple 22 => "null"
  | .simple 23 => "undefined"
  | .simple _ => "simple"
  | .float value => "floating point `" ++ value.text ++ "`"
  | .stop => "break"

/-- The number of bytes that follow the first byte of a shortest header. -/
def argumentWidth (argument : Nat) : Nat :=
  if argument < 24 then 0
  else if argument < UInt8.size then 1
  else if argument < UInt16.size then 2
  else if argument < UInt32.size then 4
  else 8

/-- A small argument stands in the first byte and a large one behind it. -/
def encodeArgument (major argument : Nat) : List UInt8 :=
  let information :=
    match argumentWidth argument with
    | 0 => argument
    | 1 => 24
    | 2 => 25
    | 4 => 26
    | _ => 27
  UInt8.ofNat (32 * major + information) :: BigEndian.write (argumentWidth argument) argument

/-- An integer without a sign is a header alone. -/
def encodeUnsigned (value : Nat) : List UInt8 := encodeArgument 0 value

/-- The elements of an array follow its header. -/
def encodeArrayHeader (length : Nat) : List UInt8 := encodeArgument 4 length

/-- A negative number starts from one in big number tags and from zero in a header. -/
def positiveBigTag : Nat := 2

def negativeBigTag : Nat := 3

end ContactPlan.Cbor
