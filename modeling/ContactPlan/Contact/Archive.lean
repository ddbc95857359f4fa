import ContactPlan.Cbor.Skip
import ContactPlan.Contact.Set

/-
This file writes contact sets as CBOR archives and reads archives back.
An archive is an array of records, and a record is an array of six integers.
-/

namespace ContactPlan.Archive

open Cbor

/-- An archive is not written past its room and not read from other bytes. -/
inductive Fault where
  | insufficientCapacity (capacity : Nat)
  | unreadable (fault : Cbor.Fault)

def Fault.message : Fault → String
  | .insufficientCapacity capacity =>
      "insufficient capacity: encoding needs more than " ++ Decimal.write capacity ++ " bytes"
  | .unreadable .truncated => "truncated input"
  | .unreadable (.malformed offset) => "malformed input at offset " ++ Decimal.write offset
  | .unreadable (.misfit misfit) => "unexpected shape: " ++ misfit.text

/-- A header and six integers, which are written one by one. -/
def recordChunks (contact : Contact) : List (List UInt8) :=
  encodeArrayHeader 6 :: contact.fields.map encodeUnsigned

/-- A chunk is a header or an integer, and chunks are written one by one. -/
def chunks (contacts : List Contact) : List (List UInt8) :=
  encodeArrayHeader contacts.length :: contacts.flatMap recordChunks

/-- Chunks are taken from left to right as long as there is room for them. -/
def fit? : Nat → List (List UInt8) → Option (List UInt8)
  | _, [] => some []
  | room, chunk :: rest =>
      if chunk.length ≤ room then (fit? (room - chunk.length) rest).map (chunk ++ ·) else none

/-- An archive that does not fit is not written at all. -/
def encodeInto (capacity : Nat) (set : ContactSet) : Except Fault (List UInt8) :=
  match fit? capacity (chunks set.members) with
  | some bytes => .ok bytes
  | none => .error (.insufficientCapacity capacity)

/-- The longest header has nine bytes and the longest record thirty-nine. -/
def maximalLength (contacts : Nat) : Nat := 9 + contacts * 39

/-- An archive is written into a room that is large enough for any set of its size. -/
def encode (set : ContactSet) : Except Fault (List UInt8) :=
  encodeInto (maximalLength set.size) set

/-- Tags before an integer do not count, except those of big numbers. -/
def integer : Reader BigNumber :=
  Reader.loop (fun (_ : Unit) => header.andThen fun next =>
    match next with
    | .unsigned value => Reader.done (.finished ⟨false, value⟩)
    | .negative value => Reader.done (.finished ⟨true, value⟩)
    | .tag number =>
        if number = positiveBigTag ∨ number = negativeBigTag then
          (bigNumber (number = negativeBigTag)).map .finished
        else Reader.done (.again ())
    | next => Reader.reject (.wrongType next .integer)) ()

/-- A field of 32 bits is read as one of 64 bits first. -/
def field (bound : Nat) : Reader Nat :=
  integer.andThen fun number =>
  if number.negative then Reader.reject .negativeInteger
  else if UInt64.size ≤ number.value then Reader.reject .largeInteger
  else if bound ≤ number.value then Reader.reject (.wideField number.value)
  else Reader.done number.value

/-- Tags before an array do not count. -/
def untagged : Reader Header :=
  Reader.loop (fun (_ : Unit) => header.andThen fun next =>
    match next with
    | .tag _ => Reader.done (.again ())
    | next => Reader.done (.finished next)) ()

/-- An open array goes on until its break, which is taken. -/
def hasNext : Option Nat → Reader Bool
  | some remaining => Reader.done (0 < remaining)
  | none =>
      (Reader.peek header).andThen fun next =>
      match next with
      | .stop => header.map fun _ => false
      | _ => Reader.done true

/-- The fields before a missing one are read before it is noticed. -/
def nextField (bound index : Nat) (remaining : Option Nat) : Reader (Nat × Option Nat) :=
  (hasNext remaining).andThen fun present =>
  if present then (field bound).map fun value => (value, remaining.map (· - 1))
  else Reader.reject (.wrongLength index)

def contactOfFields (start duration firstAsn firstGateway secondAsn secondGateway : Nat) :
    Contact :=
  { start := UInt64.ofNat start
    duration := UInt64.ofNat duration
    first := ⟨UInt32.ofNat firstAsn, ⟨UInt32.ofNat firstGateway⟩⟩
    second := ⟨UInt32.ofNat secondAsn, ⟨UInt32.ofNat secondGateway⟩⟩ }

/-- A seventh item is passed over before the record is refused. -/
def noMoreFields (remaining : Option Nat) : Reader Unit :=
  (hasNext remaining).andThen fun present =>
  if present then (skip (nestingLimit - 2)).andThen fun _ => Reader.reject (.wrongLength 7)
  else Reader.done ()

/-- Two fields have 64 bits and four have 32. -/
def arrayRecord (length : Option Nat) : Reader Contact :=
  (nextField UInt64.size 0 length).andThen fun (start, remaining) =>
  (nextField UInt64.size 1 remaining).andThen fun (duration, remaining) =>
  (nextField UInt32.size 2 remaining).andThen fun (firstAsn, remaining) =>
  (nextField UInt32.size 3 remaining).andThen fun (firstGateway, remaining) =>
  (nextField UInt32.size 4 remaining).andThen fun (secondAsn, remaining) =>
  (nextField UInt32.size 5 remaining).andThen fun (secondGateway, remaining) =>
  (noMoreFields remaining).map fun _ =>
  contactOfFields start duration firstAsn firstGateway secondAsn secondGateway

/-- A byte string stands for the sequence of its bytes. -/
def recordOfBytes : List UInt8 → Reader Contact
  | [start, duration, firstAsn, firstGateway, secondAsn, secondGateway] =>
      Reader.done (contactOfFields start.toNat duration.toNat firstAsn.toNat firstGateway.toNat
        secondAsn.toNat secondGateway.toNat)
  | bytes => Reader.reject (.wrongLength (min bytes.length 7))

def record : Reader Contact :=
  untagged.andThen fun next =>
  match next with
  | .array length => arrayRecord length
  | .bytes length => (string .bytes collector 0 [] length).andThen recordOfBytes
  | next => Reader.reject (.wrongType next .array)

/-- A byte is not a record, so that only an empty byte string stands for an array of records. -/
def recordsOfBytes : List UInt8 → Reader (List Contact)
  | [] => Reader.done []
  | first :: _ => Reader.reject (.wrongType (.unsigned first.toNat) .record)

def records : Reader (List Contact) :=
  untagged.andThen fun next =>
  match next with
  | .array length => items record length
  | .bytes length => (string .bytes collector 0 [] length).andThen recordsOfBytes
  | next => Reader.reject (.wrongType next .array)

/-- The array of records ends the archive. -/
def decode (bytes : List UInt8) : Except Fault (List Contact) :=
  match records ⟨0, bytes⟩ with
  | .error fault => .error (.unreadable fault)
  | .ok (contacts, rest) =>
      if rest.bytes = [] then .ok contacts
      else .error (.unreadable (.malformed rest.offset))

end ContactPlan.Archive
