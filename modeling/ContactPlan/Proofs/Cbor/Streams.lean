import ContactPlan.Cbor.Skip
import Mathlib.Tactic.SplitIfs

/-
This file says what it means that a reader decides by the bytes that it has read so far.
Further bytes behind them change nothing, unless they were missing.
-/

namespace ContactPlan.Cbor

namespace Cursor

/-- Further bytes stand behind those that are left. -/
def append (cursor : Cursor) (more : List UInt8) : Cursor := ⟨cursor.offset, cursor.bytes ++ more⟩

/-- The offset behind the last byte. -/
def stop (cursor : Cursor) : Nat := cursor.offset + cursor.bytes.length

/-- What is left becomes shorter whether or not further bytes stand behind it. -/
theorem length_append_lt_iff {left right : Cursor} (more : List UInt8) :
    (left.append more).bytes.length < (right.append more).bytes.length ↔
      left.bytes.length < right.bytes.length := by
  simp only [append, List.length_append]
  exact Nat.add_lt_add_iff_right

end Cursor

/-- An outcome on shorter bytes decides the outcome on longer ones, except where bytes are missing.
The bytes that have been read are counted by the offset. -/
inductive Decides {Value : Type} (stop : Nat) (more : List UInt8) :
    Except Fault (Value × Cursor) → Except Fault (Value × Cursor) → Prop where
  | found {value : Value} {rest : Cursor} (counted : rest.stop = stop) :
      Decides stop more (.ok (value, rest)) (.ok (value, rest.append more))
  | missing {later : Except Fault (Value × Cursor)} : Decides stop more (.error .truncated) later
  | failed (fault : Fault) : Decides stop more (.error fault) (.error fault)

namespace Reader

/-- The reader goes from left to right and does not look further than it has to. -/
def Streams {Value : Type} (reader : Reader Value) : Prop :=
  ∀ (cursor : Cursor) (more : List UInt8),
    Decides cursor.stop more (reader cursor) (reader (cursor.append more))

variable {First Second Value State : Type}

theorem streams_done (value : Value) : (Reader.done value).Streams := fun _ _ => .found rfl

theorem streams_fail (fault : Fault) : (Reader.fail fault : Reader Value).Streams :=
  fun _ _ => .failed fault

theorem streams_reject (misfit : Misfit) : (Reader.reject misfit : Reader Value).Streams :=
  streams_fail (.misfit misfit)

theorem streams_offset : Reader.offset.Streams := fun _ _ => .found rfl

theorem streams_lift (result : Except Fault Value) : (Reader.lift result).Streams := by
  intro cursor more
  cases result with
  | ok value => exact .found rfl
  | error fault => exact .failed fault

theorem streams_byte : Reader.byte.Streams := by
  rintro ⟨offset, bytes⟩ more
  cases bytes with
  | nil => exact .missing
  | cons first rest =>
      refine .found ?_
      simp only [Cursor.stop, List.length_cons]
      omega

/-- The bytes behind those that are counted do not matter. -/
theorem streams_take (count : Nat) : (Reader.take count).Streams := by
  rintro ⟨offset, bytes⟩ more
  unfold Reader.take
  by_cases enough : count ≤ bytes.length
  · have taken : (bytes ++ more).take count = bytes.take count :=
      List.take_append_of_le_length enough
    have left : (bytes ++ more).drop count = bytes.drop count ++ more :=
      List.drop_append_of_le_length enough
    have counted : (bytes.take count).length = count := List.length_take_of_le enough
    simp only [Cursor.append, taken, left, if_pos counted]
    refine .found ?_
    simp only [Cursor.stop, List.length_drop]
    omega
  · have short : (bytes.take count).length ≠ count := by
      rw [List.length_take]
      omega
    simp only [if_neg short]
    exact .missing

/-- The second reader goes on from where the first one has decided. -/
theorem Streams.andThen {first : Reader First} {next : First → Reader Second}
    (streams : first.Streams) (continues : ∀ value, (next value).Streams) :
    (first.andThen next).Streams := by
  intro cursor more
  have decides := streams cursor more
  unfold Reader.andThen
  generalize first cursor = outcome at decides
  generalize first (cursor.append more) = later at decides
  cases decides with
  | @found value rest counted =>
      rw [← counted]
      exact continues value rest more
  | missing => exact .missing
  | failed fault => exact .failed fault

theorem Streams.map {reader : Reader First} (streams : reader.Streams)
    (function : First → Second) : (reader.map function).Streams :=
  streams.andThen fun value => streams_done (function value)

/-- To look ahead decides as much as to read. -/
theorem Streams.peek {reader : Reader Value} (streams : reader.Streams) :
    (Reader.peek reader).Streams := by
  intro cursor more
  have decides := streams cursor more
  unfold Reader.peek
  generalize reader cursor = outcome at decides
  generalize reader (cursor.append more) = later at decides
  cases decides with
  | found counted => exact .found rfl
  | missing => exact .missing
  | failed fault => exact .failed fault

theorem streams_unsigned (width : Nat) : (Reader.unsigned width).Streams :=
  (streams_take width).map BigEndian.read

/-- Further bytes do not change how many turns a loop takes. -/
theorem streams_loop {turn : State → Reader (Turn State Value)}
    (streams : ∀ state, (turn state).Streams) (state : State) :
    Reader.Streams (Reader.loop turn state) := by
  intro cursor more
  generalize left : cursor.bytes.length = length
  induction length using Nat.strongRecOn generalizing state cursor with
  | ind length inductionHypothesis =>
      have decides := streams state cursor more
      rw [Reader.loop, Reader.loop]
      generalize turn state cursor = outcome at decides
      generalize turn state (cursor.append more) = later at decides
      cases decides with
      | @found value rest counted =>
          cases value with
          | finished value => exact .found counted
          | again next =>
              -- Both loops go on or both stop, since the turn took the same bytes from them.
              simp only [Cursor.length_append_lt_iff]
              by_cases shorter : rest.bytes.length < cursor.bytes.length
              · rw [if_pos shorter, if_pos shorter, ← counted]
                exact inductionHypothesis _ (left ▸ shorter) next rest rfl
              · rw [if_neg shorter]
                exact .missing
      | missing => exact .missing
      | failed fault => exact .failed fault

/-- The items of a counted array are read one after the other. -/
theorem Streams.times {item : Reader Value} (streams : item.Streams) (count : Nat) :
    (Reader.times item count).Streams := by
  induction count with
  | zero => exact streams_done []
  | succ count inductionHypothesis =>
      exact streams.andThen fun value => inductionHypothesis.map (value :: ·)

end Reader

open Reader

/-- The information of a header decides how wide its argument is. -/
theorem streams_argument (start information : Nat) : (argument start information).Streams := by
  unfold argument
  split_ifs
  · exact streams_done _
  · exact (streams_unsigned 1).map some
  · exact (streams_unsigned 2).map some
  · exact (streams_unsigned 4).map some
  · exact (streams_unsigned 8).map some
  · exact streams_done none
  · exact streams_fail _

/-- A header is decided by its own bytes. -/
theorem streams_header : header.Streams := by
  refine streams_offset.andThen fun start => streams_byte.andThen fun first => ?_
  refine (streams_argument start _).andThen fun argument => ?_
  split
  · exact streams_done _
  · exact streams_fail _

/-- The end of a sequence is looked for before each of its items. -/
theorem streams_items {Value : Type} {item : Reader Value} (streams : item.Streams)
    (length : Option Nat) : (items item length).Streams := by
  cases length with
  | some length => exact streams.times length
  | none =>
      refine streams_loop (fun values => streams_header.peek.andThen fun next => ?_) []
      split
      · exact streams_header.map _
      · exact streams.map _

/-- The bytes behind a segment do not matter. -/
theorem streams_pieces {State : Type} (consumer : Consumer State) (start : Nat) (state : State)
    (length : Nat) : (pieces consumer start state length).Streams := by
  induction length using Nat.strongRecOn generalizing state with
  | ind length inductionHypothesis =>
      rw [pieces]
      split
      · exact streams_lift _
      · refine (streams_take _).andThen fun piece => (streams_lift _).andThen fun next => ?_
        exact inductionHypothesis _ (by omega) next

/-- The bytes behind the last segment do not matter. -/
theorem streams_segments {State : Type} (kind : StringKind) (consumer : Consumer State)
    (state : State) : (segments kind consumer state).Streams := by
  refine streams_loop (fun pending => ?_) (1, state)
  refine streams_offset.andThen fun start => streams_header.andThen fun next => ?_
  split
  · split_ifs
    · exact streams_done _
    · exact streams_done _
  · split
    · exact (streams_pieces consumer start _ _).map _
    · exact streams_done _
    · exact streams_fail _

/-- Whatever consumes the pieces of a string sees the same pieces when further bytes follow. -/
theorem streams_string {State : Type} (kind : StringKind) (consumer : Consumer State)
    (start : Nat) (state : State) (length : Option Nat) :
    (string kind consumer start state length).Streams := by
  cases length with
  | some length => exact streams_pieces consumer start state length
  | none => exact streams_segments kind consumer state

theorem streams_bigNumber (negative : Bool) : (bigNumber negative).Streams := by
  refine streams_header.andThen fun next => ?_
  split
  · exact (streams_string _ _ _ _ _).map _
  · exact streams_reject _

theorem streams_skipBigNumber (negative : Bool) : (skipBigNumber negative).Streams := by
  refine (streams_bigNumber negative).andThen fun number => ?_
  split_ifs
  · exact streams_reject _
  · exact streams_done ()

/-- A container is read from left to right if its content is. -/
theorem streams_nested {Value : Type} {inner : Option (Reader Unit)}
    {content : Reader Unit → Reader Value}
    (streams : ∀ reader ∈ inner, (content reader).Streams) : (nested inner content).Streams := by
  cases inner with
  | none => exact streams_reject _
  | some reader => exact streams reader rfl

/-- What stands behind a tag decides how it is passed over. -/
theorem streams_skipTagged {inner : Option (Reader Unit)}
    (streams : ∀ reader ∈ inner, reader.Streams) (number : Nat) :
    (skipTagged inner number).Streams := by
  refine streams_header.peek.andThen fun next => ?_
  split
  · split_ifs
    · exact streams_skipBigNumber _
    · exact streams_nested streams
  · exact streams_nested streams

/-- An item is passed over from left to right if the items inside are. -/
theorem streams_skipWith {inner : Option (Reader Unit)}
    (streams : ∀ reader ∈ inner, reader.Streams) : (skipWith inner).Streams := by
  refine streams_header.andThen fun next => streams_offset.andThen fun stop => ?_
  cases next with
  | unsigned value => exact streams_done ()
  | negative value => exact streams_done ()
  | float value => exact streams_done ()
  | bytes length => exact streams_string _ _ _ _ _
  | text length => exact (streams_string _ _ _ _ _).map _
  | array length =>
      refine streams_nested fun reader isInner => ?_
      exact (streams_items (streams reader isInner) length).map _
  | map length =>
      refine streams_nested fun reader isInner => ?_
      have pair := (streams reader isInner).andThen fun _ => streams reader isInner
      exact (streams_items pair length).map _
  | tag number => exact streams_skipTagged streams number
  | simple number =>
      change Streams (if 20 ≤ number ∧ number ≤ 23 then _ else _)
      split_ifs
      · exact streams_done ()
      · exact streams_reject _
  | stop => exact streams_reject _

/-- An item is passed over in the same way whatever follows it. -/
theorem streams_skip (levels : Nat) : (skip levels).Streams := by
  induction levels with
  | zero => exact streams_skipWith fun reader isInner => by cases isInner
  | succ levels inductionHypothesis =>
      refine streams_skipWith fun reader isInner => ?_
      rw [← Option.some.inj isInner]
      exact inductionHypothesis

end ContactPlan.Cbor
