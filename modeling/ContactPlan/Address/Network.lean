import ContactPlan.Address.Ipv6

namespace ContactPlan

inductive Address where
  | v4 (address : Ipv4)
  | v6 (address : Ipv6)
  deriving DecidableEq

def Address.text : Address → String
  | .v4 address => address.text
  | .v6 address => address.text

/-- A text is tried as an address of the shorter family first. -/
def Address.ofText? (text : String) : Option Address :=
  match Ipv4.ofText? text with
  | some address => some (.v4 address)
  | none => (Ipv6.ofText? text).map .v6

/-- The width is the number of bits. -/
def Address.width : Address → Nat
  | .v4 _ => 32
  | .v6 _ => 128

/-- Shorter addresses come first and addresses of one family are numbers. -/
def Address.rank : Address → Nat
  | .v4 address => address.bits.toNat
  | .v6 address => Nat.pow 2 128 + address.bits.toNat

/-- A network keeps the host bits that it was declared with. -/
structure Network where
  address : Address
  length : Nat
  within : length ≤ address.width
  deriving DecidableEq

def Network.text (network : Network) : String :=
  network.address.text ++ "/" ++ Decimal.write network.length

/-- Networks are ordered by address and then by length. -/
def Network.rank (network : Network) : Nat := 256 * network.address.rank + network.length

/-- A length that is wider than the address makes no network. -/
def Network.make? (address : Address) (length : Nat) : Option Network :=
  if within : length ≤ address.width then some ⟨address, length, within⟩ else none

/-- A mask counts its ones, which have to stand before its zeros. -/
def Ipv4.maskLength? (mask : Ipv4) : Option Nat :=
  (List.range 33).find? fun length => mask.bits.toNat = UInt32.size - Nat.pow 2 (32 - length)

/-- A network without a length is a single address, and a 32-bit one may carry a mask. -/
def Network.readV4? (address : Ipv4) : Option (List Char) → Option Network
  | none => Network.make? (.v4 address) 32
  | some text =>
      match Ipv4.read? text with
      | some mask => mask.maskLength?.bind (Network.make? (.v4 address))
      | none => (Decimal.readBelow? 256 text).bind (Network.make? (.v4 address))

/-- Without a length the network is the host alone. -/
def Network.readV6? (address : Ipv6) : Option (List Char) → Option Network
  | none => Network.make? (.v6 address) 128
  | some text => (Decimal.readBelow? 256 text).bind (Network.make? (.v6 address))

def Network.readParts? (address : List Char) (length : Option (List Char)) : Option Network :=
  match Ipv4.read? address, Ipv6.read? address with
  | some address, _ => Network.readV4? address length
  | none, some address => Network.readV6? address length
  | none, none => none

/-- At most one slash parts the address from the length. -/
def Network.ofText? (text : String) : Option Network :=
  match Fields.split '/' text.toList with
  | [address] => Network.readParts? address none
  | [address, length] => Network.readParts? address (some length)
  | _ => none

end ContactPlan
