import ContactPlan.Proofs.Contact.Set
import ContactPlan.Proofs.Text.BigEndian
import ContactPlan.Store.Basic

namespace ContactPlan

namespace Record

@[simp] theorem length_endpointBytes (endpoint : Endpoint) :
    (endpointBytes endpoint).length = 8 := by
  simp [endpointBytes]

/-- An endpoint is read from its own bytes. -/
theorem readEndpoint_append (endpoint : Endpoint) (rest : List UInt8) :
    readEndpoint (endpointBytes endpoint ++ rest) = endpoint := by
  have asn := BigEndian.length_write 4 endpoint.asn.toNat
  have gateway := BigEndian.length_write 4 endpoint.gateway.bits.toNat
  have asnFits : endpoint.asn.toNat < 256 ^ 4 := endpoint.asn.toNat_lt
  have gatewayFits : endpoint.gateway.bits.toNat < 256 ^ 4 := endpoint.gateway.bits.toNat_lt
  rw [endpointBytes, List.append_assoc, readEndpoint, List.take_left' asn, List.drop_left' asn,
    List.take_left' gateway, BigEndian.read_write_of_lt asnFits,
    BigEndian.read_write_of_lt gatewayFits, UInt32.ofNat_toNat, UInt32.ofNat_toNat]

/-- A record that was written is read whatever follows it. -/
theorem read_append (contact : Contact) (rest : List UInt8) :
    read (write contact ++ rest) = contact := by
  let start := BigEndian.write 8 contact.start.toNat
  let duration := BigEndian.write 8 contact.duration.toNat
  let first := endpointBytes contact.first
  let second := endpointBytes contact.second
  have startLength : start.length = 8 := BigEndian.length_write 8 _
  have durationLength : duration.length = 8 := BigEndian.length_write 8 _
  have firstLength : first.length = 8 := length_endpointBytes contact.first
  have layout : write contact ++ rest = start ++ (duration ++ (first ++ (second ++ rest))) := by
    simp only [write, List.append_assoc, start, duration, first, second]
  have afterStart : (write contact ++ rest).drop 8 = duration ++ (first ++ (second ++ rest)) := by
    rw [layout, List.drop_left' startLength]
  have afterDuration : (write contact ++ rest).drop 16 = first ++ (second ++ rest) := by
    rw [← List.drop_drop (i := 8) (j := 8), afterStart, List.drop_left' durationLength]
  have afterFirst : (write contact ++ rest).drop 24 = second ++ rest := by
    rw [← List.drop_drop (i := 8) (j := 16), afterDuration, List.drop_left' firstLength]
  have startFits : contact.start.toNat < 256 ^ 8 := contact.start.toNat_lt
  have durationFits : contact.duration.toNat < 256 ^ 8 := contact.duration.toNat_lt
  rw [read, afterStart, afterDuration, afterFirst, layout, List.take_left' startLength,
    List.take_left' durationLength, readEndpoint_append, readEndpoint_append,
    BigEndian.read_write_of_lt startFits, BigEndian.read_write_of_lt durationFits,
    UInt64.ofNat_toNat, UInt64.ofNat_toNat]

/-- A contact is read as it was written. -/
theorem read_write (contact : Contact) : read (write contact) = contact := by
  have alone := read_append contact []
  rwa [List.append_nil] at alone

/-- A number at the start of some bytes is written as it was read. -/
theorem write_read_take {bytes : List UInt8} {width : Nat} (enough : width ≤ bytes.length) :
    BigEndian.write width (BigEndian.read (bytes.take width)) = bytes.take width := by
  have written := BigEndian.write_read (bytes.take width)
  rwa [List.length_take_of_le enough] at written

/-- A number of some bytes is bounded by their number. -/
theorem read_take_lt (bytes : List UInt8) (width : Nat) :
    BigEndian.read (bytes.take width) < 256 ^ width :=
  Nat.lt_of_lt_of_le (BigEndian.read_lt _)
    (Nat.pow_le_pow_right (by decide) (List.length_take_le _ _))

/-- The bytes of an endpoint are written as they were read. -/
theorem endpointBytes_readEndpoint {bytes : List UInt8} (enough : 8 ≤ bytes.length) :
    endpointBytes (readEndpoint bytes) = bytes.take 8 := by
  have asn : (UInt32.ofNat (BigEndian.read (bytes.take 4))).toNat = BigEndian.read (bytes.take 4) :=
    UInt32.toNat_ofNat_of_lt (read_take_lt bytes 4)
  have gateway : (UInt32.ofNat (BigEndian.read ((bytes.drop 4).take 4))).toNat =
      BigEndian.read ((bytes.drop 4).take 4) :=
    UInt32.toNat_ofNat_of_lt (read_take_lt (bytes.drop 4) 4)
  have gatewayEnough : 4 ≤ (bytes.drop 4).length := by
    rw [List.length_drop]
    omega
  calc
    endpointBytes (readEndpoint bytes)
      = BigEndian.write 4 (BigEndian.read (bytes.take 4)) ++
          BigEndian.write 4 (BigEndian.read ((bytes.drop 4).take 4)) := by
        rw [endpointBytes, readEndpoint, asn, gateway]
    _ = bytes.take 4 ++ (bytes.drop 4).take 4 := by
        rw [write_read_take (by omega), write_read_take gatewayEnough]
    _ = bytes.take 8 := List.take_add.symm

/-- A record is written with the bytes that it was read from. -/
theorem write_read {bytes : List UInt8} (whole : bytes.length = width) :
    write (read bytes) = bytes := by
  have start : (UInt64.ofNat (BigEndian.read (bytes.take 8))).toNat =
      BigEndian.read (bytes.take 8) :=
    UInt64.toNat_ofNat_of_lt (read_take_lt bytes 8)
  have duration : (UInt64.ofNat (BigEndian.read ((bytes.drop 8).take 8))).toNat =
      BigEndian.read ((bytes.drop 8).take 8) :=
    UInt64.toNat_ofNat_of_lt (read_take_lt (bytes.drop 8) 8)
  have enough (skipped : Nat) (early : skipped ≤ 24) : 8 ≤ (bytes.drop skipped).length := by
    rw [List.length_drop, whole, width]
    omega
  have startEnough : 8 ≤ bytes.length := enough 0 (by decide)
  calc
    write (read bytes)
      = BigEndian.write 8 (BigEndian.read (bytes.take 8)) ++
          BigEndian.write 8 (BigEndian.read ((bytes.drop 8).take 8)) ++
          endpointBytes (readEndpoint (bytes.drop 16)) ++
          endpointBytes (readEndpoint (bytes.drop 24)) := by
        simp only [write, read, start, duration]
    _ = bytes.take 8 ++ (bytes.drop 8).take 8 ++ (bytes.drop 16).take 8 ++
          (bytes.drop 24).take 8 := by
        rw [write_read_take startEnough, write_read_take (enough 8 (by decide)),
          endpointBytes_readEndpoint (enough 16 (by decide)),
          endpointBytes_readEndpoint (enough 24 (by decide))]
    _ = bytes.take width := by
        rw [← List.take_add, ← List.take_add, ← List.take_add]
        rfl
    _ = bytes := List.take_of_length_le (Nat.le_of_eq whole)

/-- Only the bytes of the record itself are looked at. -/
theorem read_take (bytes : List UInt8) : read (bytes.take width) = read bytes := by
  simp [read, readEndpoint, width, List.take_take, List.drop_take]

theorem writeAll_cons (contact : Contact) (contacts : List Contact) :
    writeAll (contact :: contacts) = write contact ++ writeAll contacts := rfl

/-- All records have the same width. -/
theorem length_writeAll (contacts : List Contact) :
    (writeAll contacts).length = width * contacts.length := by
  induction contacts with
  | nil => rfl
  | cons first rest inductionHypothesis =>
      rw [writeAll_cons, List.length_append, length_write, inductionHypothesis, List.length_cons,
        Nat.mul_succ, Nat.add_comm]

theorem length_readMany (count : Nat) (bytes : List UInt8) :
    (readMany count bytes).length = count := by
  induction count generalizing bytes with
  | zero => rfl
  | succ count inductionHypothesis => exact congrArg (· + 1) (inductionHypothesis _)

/-- Contacts are read as they were written. -/
theorem readMany_writeAll (contacts : List Contact) :
    readMany contacts.length (writeAll contacts) = contacts := by
  induction contacts with
  | nil => rfl
  | cons first rest inductionHypothesis =>
      rw [writeAll_cons, List.length_cons, readMany, read_append,
        List.drop_left' (length_write first), inductionHypothesis]

/-- All records are read in the order in which they were written. -/
theorem readAll_writeAll (contacts : List Contact) : readAll (writeAll contacts) = contacts := by
  rw [readAll, length_writeAll, Nat.mul_div_cancel_left _ (by decide), readMany_writeAll]

/-- The records of some bytes stand one after the other. -/
theorem readMany_eq (count : Nat) (bytes : List UInt8) :
    readMany count bytes =
      (List.range count).map fun index => read ((bytes.drop (width * index)).take width) := by
  induction count generalizing bytes with
  | zero => rfl
  | succ count inductionHypothesis =>
      rw [readMany, inductionHypothesis, List.range_succ_eq_map, List.map_cons, List.map_map,
        Nat.mul_zero, List.drop_zero, read_take]
      congr 2
      funext index
      rw [Function.comp_apply, List.drop_drop, Nat.mul_succ, Nat.add_comm]

end Record

/-- Every contact of a store has a whole record. -/
theorem Store.size_contents_le (bytes : List UInt8) :
    (contents bytes).size ≤ bytes.length / Record.width := by
  have counted := ContactSet.size_ofList_le (Record.readAll bytes)
  rw [Record.readAll, Record.length_readMany] at counted
  exact counted

/-- A store holds the valid contacts of the set that was saved. -/
theorem Store.contents_image (set : ContactSet) :
    Store.contents (Store.image set) = set.valid := by
  rw [contents, image, Record.readAll_writeAll, ContactSet.ofList_members]

/-- A store is loaded from its bytes. -/
theorem Store.load_of_read {disk : Disk} {store : String} {bytes : List UInt8}
    (stored : disk.read store = .ok bytes) : load disk store = .ok (some (contents bytes)) := by
  rw [load, stored]

theorem Store.loadOrEmpty_of_read {disk : Disk} {store : String} {bytes : List UInt8}
    (stored : disk.read store = .ok bytes) : loadOrEmpty disk store = .ok (contents bytes) := by
  rw [loadOrEmpty, load_of_read stored]
  rfl

end ContactPlan
