import ContactPlan.Cbor.Fault

namespace ContactPlan.Cbor

/-- The offset counts the bytes that were read. -/
structure Cursor where
  offset : Nat
  bytes : List UInt8

abbrev Reader (Value : Type) := Cursor → Except Fault (Value × Cursor)

namespace Reader

/-- A reader that takes no bytes. -/
def done {Value : Type} (value : Value) : Reader Value := fun cursor => .ok (value, cursor)

/-- A reader that finds a fault wherever it stands. -/
def fail {Value : Type} (fault : Fault) : Reader Value := fun _ => .error fault

def reject {Value : Type} (misfit : Misfit) : Reader Value := fail (.misfit misfit)

/-- The second reader goes on where the first one has stopped, and the first fault counts. -/
def andThen {First Second : Type} (first : Reader First) (next : First → Reader Second) :
    Reader Second := fun cursor =>
  match first cursor with
  | .ok (value, rest) => next value rest
  | .error fault => .error fault

def map {First Second : Type} (function : First → Second) (reader : Reader First) :
    Reader Second := reader.andThen fun value => done (function value)

/-- How many bytes have been read so far. -/
def offset : Reader Nat := fun cursor => .ok (cursor.offset, cursor)

/-- The cursor stays where it is. -/
def peek {Value : Type} (reader : Reader Value) : Reader Value := fun cursor =>
  match reader cursor with
  | .ok (value, _) => .ok (value, cursor)
  | .error fault => .error fault

/-- The next byte, which has to be there. -/
def byte : Reader UInt8 := fun cursor =>
  match cursor.bytes with
  | [] => .error .truncated
  | first :: rest => .ok (first, ⟨cursor.offset + 1, rest⟩)

/-- All the bytes have to be there. -/
def take (count : Nat) : Reader (List UInt8) := fun cursor =>
  let taken := cursor.bytes.take count
  if taken.length = count then .ok (taken, ⟨cursor.offset + count, cursor.bytes.drop count⟩)
  else .error .truncated

/-- A number of a fixed width, with the most significant byte first. -/
def unsigned (width : Nat) : Reader Nat := (take width).map BigEndian.read

/-- A turn of a loop ends it or leaves a state for the next turn. -/
inductive Turn (State Value : Type) where
  | again (state : State)
  | finished (value : Value)

/-- A loop repeats its turn, and every turn but the last one takes a byte. -/
def loop {State Value : Type} (turn : State → Reader (Turn State Value)) (state : State)
    (cursor : Cursor) : Except Fault (Value × Cursor) :=
  match turn state cursor with
  | .error fault => .error fault
  | .ok (.finished value, rest) => .ok (value, rest)
  | .ok (.again state, rest) =>
      if rest.bytes.length < cursor.bytes.length then loop turn state rest
      else .error .truncated
termination_by cursor.bytes.length

/-- The readers for a given number of items run one after the other. -/
def times {Value : Type} (item : Reader Value) : Nat → Reader (List Value)
  | 0 => done []
  | count + 1 => item.andThen fun value => (times item count).map (value :: ·)

end Reader

/-- An argument behind the first byte has one, two, four or eight bytes. -/
def argument (start information : Nat) : Reader (Option Nat) :=
  if information < 24 then Reader.done (some information)
  else if information = 24 then (Reader.unsigned 1).map some
  else if information = 25 then (Reader.unsigned 2).map some
  else if information = 26 then (Reader.unsigned 4).map some
  else if information = 27 then (Reader.unsigned 8).map some
  else if information = 31 then Reader.done none
  else Reader.fail (.malformed start)

/-- Floats of all three widths and simple values share one kind. -/
def otherHeader (information argument : Nat) : Header :=
  if information = 25 then .float (Binary64.ofBits 5 10 argument)
  else if information = 26 then .float (Binary64.ofBits 8 23 argument)
  else if information = 27 then .float (Binary64.ofBits 11 52 argument)
  else .simple argument

/-- Only strings, arrays and maps may leave their length open. -/
def headerOf? (major information : Nat) (argument : Option Nat) : Option Header :=
  match major with
  | 0 => argument.map .unsigned
  | 1 => argument.map .negative
  | 2 => some (.bytes argument)
  | 3 => some (.text argument)
  | 4 => some (.array argument)
  | 5 => some (.map argument)
  | 6 => argument.map .tag
  | _ =>
      match argument with
      | some argument => some (otherHeader information argument)
      | none => some .stop

/-- A header that breaks the format is reported at its first byte. -/
def header : Reader Header :=
  Reader.offset.andThen fun start =>
  Reader.byte.andThen fun first =>
  let major := first.toNat / 32
  let information := first.toNat % 32
  (argument start information).andThen fun argument =>
  match headerOf? major information argument with
  | some header => Reader.done header
  | none => Reader.fail (.malformed start)

/-- The items of an array stand up to its length or up to a break. -/
def items {Value : Type} (item : Reader Value) : Option Nat → Reader (List Value)
  | some length => Reader.times item length
  | none =>
      Reader.loop (fun values => (Reader.peek header).andThen fun next =>
        match next with
        | .stop => header.map fun _ => .finished values.reverse
        | _ => item.map fun value => .again (value :: values)) []

end ContactPlan.Cbor
