import ContactPlan.Proofs.Contact.Archive

namespace ContactPlan.Archive

/-- The first part of a buffer has been written, and the rest is still as it was. -/
structure Buffer where
  written : List UInt8
  rest : List UInt8

namespace Buffer

def fresh (bytes : List UInt8) : Buffer := ⟨[], bytes⟩

def bytes (buffer : Buffer) : List UInt8 := buffer.written ++ buffer.rest

/-- A piece is written as far as there is room for it. -/
def write (buffer : Buffer) (piece : List UInt8) : Buffer :=
  ⟨buffer.written ++ piece.take buffer.rest.length, buffer.rest.drop piece.length⟩

/-- Pieces are written until there is no room for one of them, which the flag tells. -/
def writeAll (buffer : Buffer) : List (List UInt8) → Bool × Buffer
  | [] => (true, buffer)
  | piece :: pieces =>
      if piece.length ≤ buffer.rest.length then (buffer.write piece).writeAll pieces
      else (false, buffer.write piece)

@[simp] theorem write_nil (buffer : Buffer) : buffer.write [] = buffer := by
  simp [write]

/-- Bytes behind a piece that fits are written behind it. -/
theorem write_append {buffer : Buffer} {piece : List UInt8}
    (fits : piece.length ≤ buffer.rest.length) (more : List UInt8) :
    buffer.write (piece ++ more) = (buffer.write piece).write more := by
  simp [write, List.take_append, List.take_of_length_le fits]

/-- Nothing is written behind a piece that does not fit. -/
theorem write_append_of_lt {buffer : Buffer} {piece : List UInt8}
    (short : buffer.rest.length < piece.length) (more : List UInt8) :
    buffer.write (piece ++ more) = buffer.write piece := by
  have within : buffer.rest.length - piece.length = 0 := by omega
  have nothing : buffer.rest.length ≤ piece.length := by omega
  simp [write, List.take_append, within, List.drop_eq_nil_of_le nothing,
    List.drop_eq_nil_of_le (Nat.le_add_right_of_le nothing)]

/-- It does not matter how bytes are divided into pieces. -/
theorem writeAll_eq (buffer : Buffer) (pieces : List (List UInt8)) :
    buffer.writeAll pieces =
      (decide (pieces.flatten.length ≤ buffer.rest.length), buffer.write pieces.flatten) := by
  induction pieces generalizing buffer with
  | nil => simp [writeAll]
  | cons piece pieces inductionHypothesis =>
      rw [writeAll, List.flatten_cons]
      by_cases fits : piece.length ≤ buffer.rest.length
      · rw [if_pos fits, inductionHypothesis, write_append fits]
        congr 2
        simp only [write, List.length_drop, List.length_append, eq_iff_iff]
        omega
      · rw [if_neg fits, write_append_of_lt (by omega)]
        congr 1
        simp only [List.length_append, Bool.false_eq, decide_eq_false_iff_not]
        omega

/-- The beginning of a buffer is overwritten. -/
theorem bytes_write_fresh (bytes piece : List UInt8) :
    ((fresh bytes).write piece).bytes = piece.take bytes.length ++ bytes.drop piece.length := rfl

end Buffer

/-- The pieces of an archive are written over a buffer, and the bytes of the archive are counted. -/
def encodeOver (buffer : List UInt8) (pieces : List (List UInt8)) :
    Except Fault Nat × List UInt8 :=
  let (complete, after) := (Buffer.fresh buffer).writeAll pieces
  (if complete then .ok after.written.length
    else .error (.insufficientCapacity buffer.length), after.bytes)

/-- Of every header the first byte is a piece and the argument behind it is another. -/
def pieces (contacts : List Contact) : List (List UInt8) :=
  (chunks contacts).flatMap fun chunk => [chunk.take 1, chunk.drop 1]

/-- The pieces of an archive are its bytes. -/
theorem flatten_pieces (contacts : List Contact) :
    (pieces contacts).flatten = (chunks contacts).flatten := by
  have joined (chunk : List UInt8) : [chunk.take 1, chunk.drop 1].flatten = chunk := by
    simp only [List.flatten_cons, List.flatten_nil, List.append_nil, List.take_append_drop]
  rw [pieces, List.flatMap_def, List.flatten_flatten, List.map_map]
  congr 1
  exact (List.map_congr_left fun chunk _ => joined chunk).trans (List.map_id _)

/-- An archive is written when the capacity is enough for all of it. -/
theorem encodeInto_eq (capacity : Nat) (set : ContactSet) :
    encodeInto capacity set =
      if (chunks set.members).flatten.length ≤ capacity then .ok (chunks set.members).flatten
      else .error (.insufficientCapacity capacity) := by
  rw [encodeInto, fit?_eq]
  by_cases fits : (chunks set.members).flatten.length ≤ capacity
  · rw [if_pos fits, if_pos fits]
  · rw [if_neg fits, if_neg fits]

/-- As much of the archive is written as the buffer takes, and the rest of the buffer stays. -/
theorem encodeOver_eq (buffer : List UInt8) (pieces : List (List UInt8)) :
    encodeOver buffer pieces =
      (if pieces.flatten.length ≤ buffer.length then .ok pieces.flatten.length
        else .error (.insufficientCapacity buffer.length),
        pieces.flatten.take buffer.length ++ buffer.drop pieces.flatten.length) := by
  rw [encodeOver, Buffer.writeAll_eq]
  generalize pieces.flatten = archive
  change (if decide (archive.length ≤ buffer.length) = true then _ else _, _) = _
  rw [Buffer.bytes_write_fresh]
  by_cases fits : archive.length ≤ buffer.length
  · have whole : ((Buffer.fresh buffer).write archive).written.length = archive.length := by
      simp [Buffer.fresh, Buffer.write, fits]
    simp only [fits, decide_true, if_true, whole]
  · simp only [fits, decide_false, Bool.false_eq_true, if_false]

/-- Writing over a buffer succeeds and fails as writing within the length of the buffer does. -/
theorem encodeOver_encodeInto {pieces : List (List UInt8)} {set : ContactSet}
    (divides : pieces.flatten = (chunks set.members).flatten) (buffer : List UInt8) :
    (encodeOver buffer pieces).1 = (encodeInto buffer.length set).map List.length := by
  rw [encodeOver_eq, encodeInto_eq, divides]
  by_cases fits : (chunks set.members).flatten.length ≤ buffer.length
  · rw [if_pos fits, if_pos fits]
    rfl
  · rw [if_neg fits, if_neg fits]
    rfl

/-- An archive is never empty, for its header says how many contacts follow. -/
theorem length_chunks_pos (contacts : List Contact) : 1 ≤ (chunks contacts).flatten.length := by
  rw [flatten_chunks, List.length_append]
  exact Nat.le_add_right_of_le (Nat.succ_le_succ (Nat.zero_le _))

/-- Every set has an archive, and a capacity suffices for the set exactly when it is no less than
the length of the archive. Only a lack of capacity keeps the archive from being written.
A buffer holds as much of the archive as it has room for and is left as it was behind it, into
whatever pieces the archive is divided. -/
theorem encodeInto_suffices_iff (set : ContactSet) :
    ∃ archive, encode set = .ok archive ∧ 1 ≤ archive.length ∧
      archive.length ≤ maximalLength set.size ∧
      (∀ capacity, encodeInto capacity set =
        if archive.length ≤ capacity then .ok archive
        else .error (.insufficientCapacity capacity)) ∧
      ∀ pieces : List (List UInt8), pieces.flatten = archive →
        ∀ buffer, encodeOver buffer pieces =
          (if archive.length ≤ buffer.length then .ok archive.length
            else .error (.insufficientCapacity buffer.length),
            archive.take buffer.length ++ buffer.drop archive.length) := by
  refine ⟨(chunks set.members).flatten, encode_eq set, length_chunks_pos set.members,
    length_chunks_le set.members, fun capacity => encodeInto_eq capacity set, ?_⟩
  intro pieces divides buffer
  rw [encodeOver_eq, divides]

/-- The archive of this contact has twenty bytes. -/
def solitary : ContactSet :=
  ContactSet.ofList [⟨1000, 500, ⟨10, ⟨16843009⟩⟩, ⟨20, ⟨33686018⟩⟩⟩]

/-- The third byte announces the two bytes of the start, so that a buffer of three bytes ends
inside of a number. A buffer of 22 bytes keeps its last two. -/
theorem encodeInto_suffices_iff_cut :
    ∃ archive : List UInt8,
      archive = [129, 134, 25, 3, 232, 25, 1, 244, 10, 26, 1, 1, 1, 1, 20, 26, 2, 2, 2, 2] ∧
      (pieces solitary.members).flatten = archive ∧
      encode solitary = .ok archive ∧
      encodeInto 20 solitary = .ok archive ∧
      encodeInto 19 solitary = .error (.insufficientCapacity 19) ∧
      encodeOver [0, 0, 0] (pieces solitary.members) =
        (.error (.insufficientCapacity 3), [129, 134, 25]) ∧
      encodeOver (List.replicate 22 7) (pieces solitary.members) = (.ok 20, archive ++ [7, 7]) := by
  obtain ⟨archive, encoded, -, -, capacities, buffers⟩ := encodeInto_suffices_iff solitary
  have whole : (pieces solitary.members).flatten = archive := by
    rw [flatten_pieces]
    exact Except.ok.inj ((encode_eq solitary).symm.trans encoded)
  have bytes : archive =
      [129, 134, 25, 3, 232, 25, 1, 244, 10, 26, 1, 1, 1, 1, 20, 26, 2, 2, 2, 2] :=
    whole.symm.trans (by decide)
  have short := buffers _ whole [0, 0, 0]
  have ample := buffers _ whole (List.replicate 22 7)
  have exactly := capacities 20
  have lacking := capacities 19
  rw [bytes] at short ample exactly lacking
  exact ⟨archive, bytes, whole, encoded, bytes ▸ exactly, lacking, short, bytes ▸ ample⟩

end ContactPlan.Archive
