import ContactPlan.Contact.Archive
import ContactPlan.Proofs.Cbor.Streams
import Mathlib.Data.List.Permutation
import Mathlib.Tactic.SplitIfs

namespace ContactPlan.Archive

open Cbor Reader

theorem streams_integer : integer.Streams := by
  refine streams_loop (fun _ => streams_header.andThen fun next => ?_) ()
  split
  · exact streams_done _
  · exact streams_done _
  · split_ifs
    · exact (streams_bigNumber _).map _
    · exact streams_done _
  · exact streams_reject _

theorem streams_field (bound : Nat) : (field bound).Streams := by
  refine streams_integer.andThen fun number => ?_
  split_ifs
  · exact streams_reject _
  · exact streams_reject _
  · exact streams_reject _
  · exact streams_done _

theorem streams_untagged : untagged.Streams := by
  refine streams_loop (fun _ => streams_header.andThen fun next => ?_) ()
  split
  · exact streams_done _
  · exact streams_done _

/-- A look at the next header does not depend on what follows it. -/
theorem streams_hasNext (length : Option Nat) : (hasNext length).Streams := by
  cases length with
  | some remaining => exact streams_done _
  | none =>
      refine streams_header.peek.andThen fun next => ?_
      split
      · exact streams_header.map _
      · exact streams_done true

theorem streams_nextField (bound index : Nat) (length : Option Nat) :
    (nextField bound index length).Streams := by
  refine (streams_hasNext length).andThen fun present => ?_
  split
  · exact (streams_field bound).map _
  · exact streams_reject _

/-- The bytes behind a record do not matter. -/
theorem streams_noMoreFields (length : Option Nat) : (noMoreFields length).Streams := by
  refine (streams_hasNext length).andThen fun present => ?_
  split
  · exact (streams_skip _).andThen fun _ => streams_reject _
  · exact streams_done ()

theorem streams_arrayRecord (length : Option Nat) : (arrayRecord length).Streams := by
  refine (streams_nextField _ _ _).andThen fun start => ?_
  refine (streams_nextField _ _ _).andThen fun duration => ?_
  refine (streams_nextField _ _ _).andThen fun firstAsn => ?_
  refine (streams_nextField _ _ _).andThen fun firstGateway => ?_
  refine (streams_nextField _ _ _).andThen fun secondAsn => ?_
  refine (streams_nextField _ _ _).andThen fun secondGateway => ?_
  exact (streams_noMoreFields _).map _

theorem streams_recordOfBytes (bytes : List UInt8) : (recordOfBytes bytes).Streams := by
  unfold recordOfBytes
  split
  · exact streams_done _
  · exact streams_reject _

theorem streams_recordsOfBytes (bytes : List UInt8) : (recordsOfBytes bytes).Streams := by
  cases bytes with
  | nil => exact streams_done []
  | cons first rest => exact streams_reject _

/-- A record of either form is read from left to right. -/
theorem streams_record : record.Streams := by
  refine streams_untagged.andThen fun next => ?_
  split
  · exact streams_arrayRecord _
  · exact (streams_string _ _ _ _ _).andThen streams_recordOfBytes
  · exact streams_reject _

/-- An archive of either form is read from left to right. -/
theorem streams_records : records.Streams := by
  refine streams_untagged.andThen fun next => ?_
  split
  · exact streams_items streams_record _
  · exact (streams_string _ _ _ _ _).andThen streams_recordsOfBytes
  · exact streams_reject _

variable {bytes : List UInt8} {contacts : List Contact} {fault : Fault}

/-- An archive ends with the array of its records. -/
theorem records_of_decode_ok (decoded : decode bytes = .ok contacts) :
    ∃ offset, records ⟨0, bytes⟩ = .ok (contacts, ⟨offset, []⟩) := by
  unfold decode at decoded
  split at decoded
  next => cases decoded
  next found rest outcome =>
    split_ifs at decoded with ends
    cases decoded
    exact ⟨rest.offset, by rw [outcome, ← ends]⟩

/-- The first byte behind an archive is a fault at the length of the archive. -/
theorem decode_append_of_ok (decoded : decode bytes = .ok contacts) {more : List UInt8}
    (goesOn : more ≠ []) :
    decode (bytes ++ more) = .error (.unreadable (.malformed bytes.length)) := by
  obtain ⟨offset, outcome⟩ := records_of_decode_ok decoded
  have decides := streams_records ⟨0, bytes⟩ more
  rw [outcome] at decides
  generalize later : records (Cursor.append ⟨0, bytes⟩ more) = extended at decides
  obtain @⟨_, _, counted⟩ := decides
  have atEnd : offset = bytes.length := by
    simpa only [Cursor.stop, List.length_nil, Nat.add_zero, Nat.zero_add] using counted
  have found : records ⟨0, bytes ++ more⟩ = .ok (contacts, ⟨bytes.length, more⟩) := by
    rw [← atEnd]
    exact later
  unfold decode
  simp only [found, if_neg goesOn]

/-- A fault that bytes have shown does not go away when further bytes follow. -/
theorem decode_append_of_error (decoded : decode bytes = .error fault)
    (notMissing : fault ≠ .unreadable .truncated) (more : List UInt8) :
    decode (bytes ++ more) = .error fault := by
  have decides := streams_records ⟨0, bytes⟩ more
  change Decides _ more _ (records ⟨0, bytes ++ more⟩) at decides
  unfold decode at decoded ⊢
  generalize records ⟨0, bytes⟩ = outcome at decides decoded
  generalize records ⟨0, bytes ++ more⟩ = later at decides
  cases decides with
  | @found contacts rest counted =>
      have surplus : rest.bytes ≠ [] := fun ends => by simp [ends] at decoded
      have goesOn : (rest.append more).bytes ≠ [] := by simp [Cursor.append, surplus]
      simp only [if_neg surplus] at decoded
      simp only [if_neg goesOn]
      exact decoded
  | missing =>
      cases decoded
      exact absurd rfl notMissing
  | failed => exact decoded

/-- Bytes are read from left to right. What stands before the end of an archive lacks bytes, what
stands behind its end is a fault there, and any other fault is decided by the bytes before it. -/
theorem decode_streams (bytes more : List UInt8) :
    (∀ contacts, decode bytes = .ok contacts →
      (∀ front, front <+: bytes → front ≠ bytes →
        decode front = .error (.unreadable .truncated)) ∧
      (more ≠ [] → decode (bytes ++ more) = .error (.unreadable (.malformed bytes.length)))) ∧
    (∀ fault, decode bytes = .error fault → fault ≠ .unreadable .truncated →
      decode (bytes ++ more) = .error fault) := by
  refine ⟨fun contacts decoded => ⟨fun front isFront proper => ?_, decode_append_of_ok decoded⟩,
    fun fault decoded notMissing => decode_append_of_error decoded notMissing more⟩
  -- A front that is whole or faulty would decide the archive otherwise.
  obtain ⟨tail, rfl⟩ := isFront
  have goesOn : tail ≠ [] := fun ends => proper (by rw [ends, List.append_nil])
  cases outcome : decode front with
  | ok found =>
      rw [decode_append_of_ok outcome goesOn] at decoded
      cases decoded
  | error fault =>
      by_cases missing : fault = .unreadable .truncated
      · rw [missing]
      · rw [decode_append_of_error outcome missing tail] at decoded
        cases decoded

/-- The array is open, and its records are an array with tagged and big numbers and a byte
string. -/
def openArchive : List UInt8 :=
  [0x9F, 0x9F, 0x0A, 0xC1, 0x0B, 0xC2, 0x41, 0x01, 0x18, 0x02, 0x03, 0x04, 0xFF,
    0x5F, 0x43, 0x01, 0x02, 0x03, 0x43, 0x04, 0x05, 0x06, 0xFF, 0xFF]

/-- Both records of the open archive are read. -/
theorem decode_openArchive :
    decode openArchive = .ok [contactOfFields 10 11 1 2 3 4, contactOfFields 1 2 3 4 5 6] := by
  cbv

/-- A cut through the big number lacks bytes, and a byte behind the open array is a fault, as is
the first byte of a record that breaks the format. -/
theorem decode_streams_open :
    decode (openArchive.take 7) = .error (.unreadable .truncated) ∧
    decode (openArchive ++ [0x00]) = .error (.unreadable (.malformed 24)) ∧
    decode ([0x9F, 0x82, 0x1C] ++ openArchive) = .error (.unreadable (.malformed 2)) :=
  have ⟨cut, surplus⟩ := (decode_streams openArchive [0x00]).1 _ decode_openArchive
  ⟨cut _ (List.take_prefix 7 openArchive) (by decide), surplus (List.cons_ne_nil _ _),
    (decode_streams [0x9F, 0x82, 0x1C] openArchive).2 _ (by cbv) (by intro same; cases same)⟩

end ContactPlan.Archive
