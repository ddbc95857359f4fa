import ContactPlan.Contact.Archive
import ContactPlan.Proofs.Cbor.Header

namespace ContactPlan.Archive

open Cbor Reader

theorem integer_reads {value : Nat} (fits : value < UInt64.size) :
    integer.Reads (encodeUnsigned value) ⟨false, value⟩ :=
  Reads.loop ((header_reads_unsigned fits).finish (Reads.done _))

/-- A field below its bound is taken from its shortest encoding. -/
theorem field_reads {bound value : Nat} (below : value < bound) (narrow : bound ≤ UInt64.size) :
    (field bound).Reads (encodeUnsigned value) value := by
  have fits : value < UInt64.size := by omega
  have notLarge : ¬UInt64.size ≤ value := by omega
  have notWide : ¬bound ≤ value := by omega
  apply (integer_reads fits).finish
  rw [if_neg Bool.false_ne_true, if_neg notLarge, if_neg notWide]
  exact Reads.done value

/-- A counted array tells what comes next without a look at the bytes. -/
theorem hasNext_reads (remaining : Nat) :
    (hasNext (some remaining)).Reads [] (decide (0 < remaining)) := Reads.done _

/-- The next field is read if it is below its bound. -/
theorem nextField_reads {bound value : Nat} (index remaining : Nat) (below : value < bound)
    (narrow : bound ≤ UInt64.size) :
    (nextField bound index (some (remaining + 1))).Reads (encodeUnsigned value)
      (value, some remaining) := by
  refine (hasNext_reads (remaining + 1)).andThen ?_
  rw [if_pos (decide_eq_true (Nat.succ_pos remaining))]
  exact (field_reads below narrow).map _

/-- Nothing is read behind the last field. -/
theorem noMoreFields_reads : (noMoreFields (some 0)).Reads [] () :=
  (hasNext_reads 0).andThen (Reads.done ())

/-- The numbers of the fields determine the contact. -/
theorem contactOfFields_toNat (contact : Contact) :
    contactOfFields contact.start.toNat contact.duration.toNat contact.first.asn.toNat
      contact.first.gateway.bits.toNat contact.second.asn.toNat
      contact.second.gateway.bits.toNat = contact := by
  simp only [contactOfFields, UInt64.ofNat_toNat, UInt32.ofNat_toNat]

/-- The fields of a record are taken one by one, and none is left over. -/
theorem arrayRecord_reads (contact : Contact) :
    (arrayRecord (some 6)).Reads (contact.fields.map encodeUnsigned).flatten contact := by
  have wide : UInt64.size ≤ UInt64.size := Nat.le_refl _
  have narrow : UInt32.size ≤ UInt64.size := by decide
  rw [← contactOfFields_toNat contact]
  refine (nextField_reads 0 5 (UInt64.toNat_lt _) wide).andThen ?_
  refine (nextField_reads 1 4 (UInt64.toNat_lt _) wide).andThen ?_
  refine (nextField_reads 2 3 (UInt32.toNat_lt _) narrow).andThen ?_
  refine (nextField_reads 3 2 (UInt32.toNat_lt _) narrow).andThen ?_
  refine (nextField_reads 4 1 (UInt32.toNat_lt _) narrow).andThen ?_
  refine (nextField_reads 5 0 (UInt32.toNat_lt _) narrow).andThen ?_
  simp only [contactOfFields_toNat]
  exact noMoreFields_reads.map _

/-- The header of an array is found without tags. -/
theorem untagged_reads_array {head : List UInt8} {length : Option Nat}
    (reads : header.Reads head (.array length)) : untagged.Reads head (.array length) :=
  Reads.loop (reads.finish (Reads.done _))

theorem record_reads (contact : Contact) :
    record.Reads (recordChunks contact).flatten contact :=
  (untagged_reads_array (header_reads_array (by decide))).andThen (arrayRecord_reads contact)

/-- The header of the archive stands before the records. -/
theorem flatten_chunks (contacts : List Contact) :
    (chunks contacts).flatten = encodeArrayHeader contacts.length ++
      contacts.flatMap fun contact => (recordChunks contact).flatten := by
  rw [chunks, List.flatten_cons, List.flatMap_def, List.flatten_flatten, List.map_map]
  rfl

/-- The records of an archive are read as the contacts that they were written for. -/
theorem records_reads {contacts : List Contact} (fits : contacts.length < UInt64.size) :
    records.Reads (chunks contacts).flatten contacts := by
  rw [flatten_chunks]
  exact (untagged_reads_array (header_reads_array fits)).andThen
    (Reads.times fun contact _ => record_reads contact)

/-- All contacts come back in their order and as they were declared. -/
theorem decode_chunks {contacts : List Contact} (fits : contacts.length < UInt64.size) :
    decode (chunks contacts).flatten = .ok contacts := by
  have taken := records_reads fits 0 []
  rw [List.append_nil] at taken
  rw [decode, taken]
  rfl

/-- All chunks are written or none, and what decides is their length. -/
theorem fit?_eq (room : Nat) (chunks : List (List UInt8)) :
    fit? room chunks = if chunks.flatten.length ≤ room then some chunks.flatten else none := by
  induction chunks generalizing room with
  | nil => rfl
  | cons first rest inductionHypothesis =>
      rw [fit?, inductionHypothesis, List.flatten_cons, List.length_append]
      by_cases firstFits : first.length ≤ room
      · rw [if_pos firstFits]
        by_cases restFits : rest.flatten.length ≤ room - first.length
        · rw [if_pos restFits, if_pos (by omega)]
          rfl
        · rw [if_neg restFits, if_neg (by omega)]
          rfl
      · rw [if_neg firstFits, if_neg (by omega)]

/-- A record has one byte for its header, two fields of 64 bits and four of 32. -/
theorem length_recordChunks_le (contact : Contact) :
    (recordChunks contact).flatten.length ≤ 39 := by
  have header : (encodeArrayHeader 6).length = 1 := rfl
  have start := length_encodeArgument_le 0 contact.start.toNat
  have duration := length_encodeArgument_le 0 contact.duration.toNat
  have firstAsn := length_encodeArgument_le_five 0 contact.first.asn.toNat_lt
  have firstGateway := length_encodeArgument_le_five 0 contact.first.gateway.bits.toNat_lt
  have secondAsn := length_encodeArgument_le_five 0 contact.second.asn.toNat_lt
  have secondGateway := length_encodeArgument_le_five 0 contact.second.gateway.bits.toNat_lt
  simp only [recordChunks, Contact.fields, encodeUnsigned, List.map_cons, List.map_nil,
    List.flatten_cons, List.flatten_nil, List.length_append, List.length_nil, header]
  omega

/-- An archive fits into its room. -/
theorem length_chunks_le (contacts : List Contact) :
    (chunks contacts).flatten.length ≤ maximalLength contacts.length := by
  have records : (contacts.flatMap fun contact => (recordChunks contact).flatten).length ≤
      contacts.length * 39 := by
    induction contacts with
    | nil => simp
    | cons first rest inductionHypothesis =>
        have firstLength := length_recordChunks_le first
        rw [List.flatMap_cons, List.length_append, List.length_cons]
        omega
  rw [flatten_chunks, List.length_append, maximalLength]
  exact Nat.add_le_add (length_encodeArgument_le 4 contacts.length) records

/-- An archive consists of all chunks. -/
theorem encode_eq (set : ContactSet) : encode set = .ok (chunks set.members).flatten := by
  rw [encode, encodeInto, fit?_eq, if_pos (show _ ≤ maximalLength set.size from
    length_chunks_le set.members)]

/-- Every set is written within its room, and all its contacts are read back in canonical order
with the fields that they were declared with. -/
theorem decode_encode (set : ContactSet) (fits : maximalLength set.size < UInt64.size) :
    ∃ bytes, encode set = .ok bytes ∧ bytes.length ≤ maximalLength set.size ∧
      decode bytes = .ok set.members := by
  have room : (chunks set.members).flatten.length ≤ maximalLength set.size :=
    length_chunks_le set.members
  have countable : set.members.length < UInt64.size := by
    simp only [maximalLength, ContactSet.size] at fits
    omega
  refine ⟨(chunks set.members).flatten, ?_, room, decode_chunks countable⟩
  rw [encode, encodeInto, fit?_eq, if_pos room]

/-- The fields of these two contacts have all five widths, and the second one is invalid. -/
def allWidths : ContactSet :=
  ContactSet.ofList
    [{ start := 18446744073709551615
       duration := 65536
       first := ⟨24, ⟨256⟩⟩
       second := ⟨23, ⟨4294967295⟩⟩ },
      { start := 255
        duration := 4294967296
        first := ⟨7, ⟨0⟩⟩
        second := ⟨7, ⟨65535⟩⟩ }]

/-- The contacts come back in canonical order, each declared from the same side. -/
theorem decode_encode_allWidths :
    maximalLength allWidths.size < UInt64.size ∧
      ∃ bytes, encode allWidths = .ok bytes ∧ bytes.length ≤ 87 ∧
        decode bytes = .ok
          [⟨255, 4294967296, ⟨7, ⟨0⟩⟩, ⟨7, ⟨65535⟩⟩⟩,
            ⟨18446744073709551615, 65536, ⟨24, ⟨256⟩⟩, ⟨23, ⟨4294967295⟩⟩⟩] := by
  have members : allWidths.members =
      [⟨255, 4294967296, ⟨7, ⟨0⟩⟩, ⟨7, ⟨65535⟩⟩⟩,
        ⟨18446744073709551615, 65536, ⟨24, ⟨256⟩⟩, ⟨23, ⟨4294967295⟩⟩⟩] := by decide
  have fits : maximalLength allWidths.size < UInt64.size := by decide
  rw [← members]
  exact ⟨fits, decode_encode allWidths fits⟩

end ContactPlan.Archive
