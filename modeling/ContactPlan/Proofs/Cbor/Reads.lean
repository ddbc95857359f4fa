import ContactPlan.Cbor.Reader
import ContactPlan.Proofs.Text.BigEndian

/-
This file says what it means that a reader takes certain bytes.
A composed reader takes the bytes of its parts one after the other.
-/

namespace ContactPlan.Cbor

namespace Reader

/-- The reader takes these bytes wherever they stand and whatever follows them. -/
def Reads {Value : Type} (reader : Reader Value) (bytes : List UInt8) (value : Value) : Prop :=
  ∀ (offset : Nat) (rest : List UInt8),
    reader ⟨offset, bytes ++ rest⟩ = .ok (value, ⟨offset + bytes.length, rest⟩)

variable {First Second Value State : Type}

theorem Reads.done (value : Value) : (Reader.done value).Reads [] value := fun _ _ => rfl

theorem Reads.byte (byte : UInt8) : Reader.byte.Reads [byte] byte := fun _ _ => rfl

/-- As many bytes are read as are counted. -/
theorem Reads.take {count : Nat} {bytes : List UInt8} (counted : bytes.length = count) :
    (Reader.take count).Reads bytes bytes := by
  intro offset rest
  have taken : (bytes ++ rest).take count = bytes := List.take_left' counted
  have dropped : (bytes ++ rest).drop count = rest := List.drop_left' counted
  simp only [Reader.take, taken, dropped, if_pos counted]
  rw [counted]

/-- The second reader goes on where the first one stopped. -/
theorem Reads.andThen {first : Reader First} {next : First → Reader Second}
    {left right : List UInt8} {value : First} {result : Second}
    (takesLeft : first.Reads left value) (takesRight : (next value).Reads right result) :
    (first.andThen next).Reads (left ++ right) result := by
  intro offset rest
  have reached := takesLeft offset (right ++ rest)
  have continued := takesRight (offset + left.length) rest
  rw [List.append_assoc, List.length_append, ← Nat.add_assoc]
  simp only [Reader.andThen, reached]
  exact continued

/-- The second reader may take nothing. -/
theorem Reads.finish {first : Reader First} {next : First → Reader Second}
    {bytes : List UInt8} {value : First} {result : Second}
    (takes : first.Reads bytes value) (finishes : (next value).Reads [] result) :
    (first.andThen next).Reads bytes result := by
  have finished := takes.andThen finishes
  rw [List.append_nil] at finished
  exact finished

theorem Reads.map {reader : Reader First} {bytes : List UInt8} {value : First}
    (takes : reader.Reads bytes value) (function : First → Second) :
    (reader.map function).Reads bytes (function value) :=
  takes.finish (Reads.done (function value))

/-- A reader that looks at the offset takes the same bytes at every offset. -/
theorem Reads.offset {next : Nat → Reader Value} {bytes : List UInt8} {value : Value}
    (takes : ∀ start, (next start).Reads bytes value) :
    (Reader.offset.andThen next).Reads bytes value :=
  fun offset rest => takes offset offset rest

/-- A number is read in the width in which it was written. -/
theorem Reads.unsigned {width value : Nat} (fits : value < 256 ^ width) :
    (Reader.unsigned width).Reads (BigEndian.write width value) value := by
  have taken := Reads.take (BigEndian.length_write width value)
  have read := taken.map BigEndian.read
  rw [BigEndian.read_write_of_lt fits] at read
  exact read

/-- A loop whose first turn is its last takes the bytes of that turn. -/
theorem Reads.loop {turn : State → Reader (Turn State Value)} {state : State}
    {bytes : List UInt8} {value : Value} (takes : (turn state).Reads bytes (.finished value)) :
    Reader.Reads (Reader.loop turn state) bytes value := by
  intro offset rest
  rw [Reader.loop, takes offset rest]

/-- A turn that takes something can be followed by the bytes of further ones. -/
theorem Reads.loop_next {turn : State → Reader (Turn State Value)} {state next : State}
    {left right : List UInt8} {value : Value} (takes : (turn state).Reads left (.again next))
    (nonempty : left ≠ []) (continues : Reader.Reads (Reader.loop turn next) right value) :
    Reader.Reads (Reader.loop turn state) (left ++ right) value := by
  intro offset rest
  have shorter : (right ++ rest).length < (left ++ (right ++ rest)).length := by
    have positive := List.length_pos_iff.mpr nonempty
    simp only [List.length_append]
    omega
  rw [List.append_assoc, List.length_append, ← Nat.add_assoc, Reader.loop, takes]
  simp only [if_pos shorter]
  exact continues (offset + left.length) rest

/-- Items that are each taken from their bytes are taken together. -/
theorem Reads.times {item : Reader Value} {write : Value → List UInt8} {values : List Value}
    (takes : ∀ value ∈ values, item.Reads (write value) value) :
    (Reader.times item values.length).Reads (values.flatMap write) values := by
  induction values with
  | nil => exact Reads.done []
  | cons first others inductionHypothesis =>
      have takesFirst := takes first List.mem_cons_self
      have takesOthers := inductionHypothesis fun value member =>
        takes value (List.mem_cons_of_mem first member)
      exact takesFirst.andThen (takesOthers.map (first :: ·))

end Reader

end ContactPlan.Cbor
