import ContactPlan.Contact.Set

/-
This file writes contacts as records of thirty-two bytes.
All numbers stand most significant byte first, and there is no header.
-/

namespace ContactPlan.Record

/-- A record has two times and two endpoints of eight bytes each. -/
def width : Nat := 32

def endpointBytes (endpoint : Endpoint) : List UInt8 :=
  BigEndian.write 4 endpoint.asn.toNat ++ BigEndian.write 4 endpoint.gateway.bits.toNat

/-- The times come first and then the endpoints as they were declared. -/
def write (contact : Contact) : List UInt8 :=
  BigEndian.write 8 contact.start.toNat ++ BigEndian.write 8 contact.duration.toNat ++
    endpointBytes contact.first ++ endpointBytes contact.second

/-- Every record has the same width. -/
@[simp] theorem length_write (contact : Contact) : (write contact).length = width := by
  simp [write, endpointBytes, width]

/-- The system stands before its gateway. -/
def readEndpoint (bytes : List UInt8) : Endpoint :=
  ⟨UInt32.ofNat (BigEndian.read (bytes.take 4)),
    ⟨UInt32.ofNat (BigEndian.read ((bytes.drop 4).take 4))⟩⟩

/-- The bytes after the record are not looked at. -/
def read (bytes : List UInt8) : Contact :=
  { start := UInt64.ofNat (BigEndian.read (bytes.take 8))
    duration := UInt64.ofNat (BigEndian.read ((bytes.drop 8).take 8))
    first := readEndpoint (bytes.drop 16)
    second := readEndpoint (bytes.drop 24) }

/-- The bytes are divided into as many records as asked for. -/
def readMany : Nat → List UInt8 → List Contact
  | 0, _ => []
  | count + 1, bytes => read bytes :: readMany count (bytes.drop width)

@[simp] theorem readMany_zero (bytes : List UInt8) : readMany 0 bytes = [] := rfl

/-- A last record that is not whole is left out. -/
def readAll (bytes : List UInt8) : List Contact := readMany (bytes.length / width) bytes

def writeAll (contacts : List Contact) : List UInt8 := contacts.flatMap write

end ContactPlan.Record
