import ContactPlan.Contact.Archive
import ContactPlan.Proofs.Cbor.Payment

namespace ContactPlan.Archive

open Cbor Reader

/-- Collected bytes are worth as much as they are many. -/
theorem collector_pays : collector.Pays List.length where
  take taken := by
    cases taken
    exact Nat.le_of_eq List.length_append
  finish finished := by
    cases finished
    exact Nat.le_refl _

/-- The digits of a big number are worth nothing here. -/
theorem bigNumberBuilder_pays : bigNumberBuilder.Pays fun _ => 0 where
  take _ := Nat.zero_le _
  finish _ := Nat.le_refl _

theorem pays_bigNumber (negative : Bool) : (bigNumber negative).Pays 0 fun _ => 0 := by
  refine (pays_header.imp fun _ => Nat.zero_le 1).andThen fun next => ?_
  split
  · exact (pays_string bigNumberBuilder_pays _ _ _ _).map fun _ => Nat.le_refl _
  · exact pays_reject _

/-- Every integer has a header of its own. -/
theorem pays_integer : integer.Pays 0 fun _ => 1 := by
  refine pays_loop (fun _ => 0) (fun _ => pays_header.andThen fun next => ?_) ()
  split
  · exact pays_done (Nat.le_refl _)
  · exact pays_done (Nat.le_refl _)
  · split_ifs
    · exact ((pays_bigNumber _).onCredit 1).map fun _ => Nat.le_refl _
    · exact pays_done (Nat.zero_le _)
  · exact pays_reject _

/-- Every field takes a byte at least. -/
theorem pays_field (bound : Nat) : (field bound).Pays 0 fun _ => 1 := by
  refine pays_integer.andThen fun number => ?_
  split_ifs
  · exact pays_reject _
  · exact pays_reject _
  · exact pays_reject _
  · exact pays_done (Nat.le_refl _)

theorem pays_untagged : untagged.Pays 0 fun _ => 1 := by
  refine pays_loop (fun _ => 0) (fun _ => pays_header.andThen fun next => ?_) ()
  split
  · exact pays_done (Nat.zero_le _)
  · exact pays_done (Nat.le_refl _)

theorem pays_hasNext (length : Option Nat) : (hasNext length).Pays 0 fun _ => 0 := by
  cases length with
  | some remaining => exact pays_done (Nat.le_refl _)
  | none =>
      refine (pays_peek header 0).andThen fun next => ?_
      split
      · exact pays_header.map fun _ => Nat.zero_le _
      · exact pays_done (Nat.le_refl _)

theorem pays_nextField (bound index : Nat) (length : Option Nat) :
    (nextField bound index length).Pays 0 fun _ => 1 := by
  refine (pays_hasNext length).andThen fun present => ?_
  split
  · exact (pays_field bound).map fun _ => Nat.le_refl _
  · exact pays_reject _

/-- The end of a record is paid for. -/
theorem pays_noMoreFields (length : Option Nat) : (noMoreFields length).Pays 0 fun _ => 0 := by
  refine (pays_hasNext length).andThen fun present => ?_
  split
  · exact pays_andThen_reject _ _
  · exact pays_done (Nat.le_refl _)

/-- The six fields and the header before them take seven bytes. -/
theorem pays_arrayRecord (length : Option Nat) : (arrayRecord length).Pays 1 fun _ => 7 := by
  refine ((pays_nextField _ _ _).onCredit _).andThen fun start => ?_
  refine ((pays_nextField _ _ _).onCredit _).andThen fun duration => ?_
  refine ((pays_nextField _ _ _).onCredit _).andThen fun firstAsn => ?_
  refine ((pays_nextField _ _ _).onCredit _).andThen fun firstGateway => ?_
  refine ((pays_nextField _ _ _).onCredit _).andThen fun secondAsn => ?_
  refine ((pays_nextField _ _ _).onCredit _).andThen fun secondGateway => ?_
  exact ((pays_noMoreFields _).onCredit _).map fun _ => Nat.le_refl _

/-- A byte string in place of a record holds six bytes. -/
theorem pays_recordOfBytes (bytes : List UInt8) :
    (recordOfBytes bytes).Pays (1 + bytes.length) fun _ => 7 := by
  unfold recordOfBytes
  split
  · exact pays_done (Nat.le_refl _)
  · exact pays_reject _

/-- Every record takes seven bytes at least. -/
theorem pays_record : record.Pays 0 fun _ => 7 := by
  refine pays_untagged.andThen fun next => ?_
  split
  · exact pays_arrayRecord _
  · exact ((pays_string collector_pays _ _ _ _).onCredit 1).andThen pays_recordOfBytes
  · exact pays_reject _

/-- An empty byte string has no records to pay for. -/
theorem pays_recordsOfBytes (bytes : List UInt8) :
    (recordsOfBytes bytes).Pays 1 fun contacts => 1 + 7 * contacts.length := by
  cases bytes with
  | nil => exact pays_done (Nat.le_refl _)
  | cons first rest => exact pays_reject _

/-- The header of the archive is paid for in addition to its records. -/
theorem pays_records : records.Pays 0 fun contacts => 1 + 7 * contacts.length := by
  refine pays_untagged.andThen fun next => ?_
  split
  · exact (pays_items pays_record _).onCredit 1
  · next length =>
      have bytesPay : (string .bytes collector 0 [] length).Pays 1 fun _ => 1 :=
        ((pays_string collector_pays _ _ _ _).onCredit 1).imp fun _ => Nat.le_add_right _ _
      exact bytesPay.andThen pays_recordsOfBytes
  · exact pays_reject _

/-- No header can promise more contacts than an archive holds. Its own header takes a byte and each
of its contacts takes seven. -/
theorem decode_length {bytes : List UInt8} {contacts : List Contact}
    (decoded : decode bytes = .ok contacts) : 1 + 7 * contacts.length ≤ bytes.length := by
  unfold decode at decoded
  split at decoded
  next => cases decoded
  next found rest outcome =>
    split_ifs at decoded
    cases decoded
    have paid := pays_records _ contacts rest outcome
    exact Nat.le_trans (Nat.le_add_left _ _) paid

/-- The array is open, and its records are a tagged byte string and an array with a big number. -/
def mixedArchive : List UInt8 :=
  [0x9F, 0xC1, 0x46, 0x01, 0x02, 0x03, 0x04, 0x05, 0x06,
    0x86, 0xC2, 0x41, 0x07, 0x02, 0x03, 0x04, 0x05, 0x06, 0xFF]

/-- One record of the archive is an array and the other one a byte string, and both are paid for. -/
theorem decode_length_mixed :
    decode mixedArchive = .ok [contactOfFields 1 2 3 4 5 6, contactOfFields 7 2 3 4 5 6] ∧
      1 + 7 * 2 ≤ mixedArchive.length :=
  have decoded : decode mixedArchive =
      .ok [contactOfFields 1 2 3 4 5 6, contactOfFields 7 2 3 4 5 6] := by cbv
  ⟨decoded, decode_length decoded⟩

end ContactPlan.Archive
