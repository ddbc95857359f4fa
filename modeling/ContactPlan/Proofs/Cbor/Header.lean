import ContactPlan.Proofs.Cbor.Reads

namespace ContactPlan.Cbor

open Reader

/-- What the first byte of a shortest header says beside the kind of item. -/
def information (argument : Nat) : Nat :=
  match argumentWidth argument with
  | 0 => argument
  | 1 => 24
  | 2 => 25
  | 4 => 26
  | _ => 27

/-- The information of a header stands in its first byte, and the argument follows. -/
theorem encodeArgument_eq (major argument : Nat) :
    encodeArgument major argument =
      UInt8.ofNat (32 * major + information argument) ::
        BigEndian.write (argumentWidth argument) argument := rfl

/-- The five widths of an argument of at most 64 bits. -/
theorem argumentWidth_cases {value : Nat} (fits : value < UInt64.size) :
    (value < 24 ∧ argumentWidth value = 0 ∧ information value = value) ∨
    (value < 256 ^ 1 ∧ argumentWidth value = 1 ∧ information value = 24) ∨
    (value < 256 ^ 2 ∧ argumentWidth value = 2 ∧ information value = 25) ∨
    (value < 256 ^ 4 ∧ argumentWidth value = 4 ∧ information value = 26) ∨
    (value < 256 ^ 8 ∧ argumentWidth value = 8 ∧ information value = 27) := by
  unfold information argumentWidth
  split_ifs with inFirst oneByte twoBytes fourBytes
  · exact .inl ⟨inFirst, rfl, rfl⟩
  · exact .inr (.inl ⟨oneByte, rfl, rfl⟩)
  · exact .inr (.inr (.inl ⟨twoBytes, rfl, rfl⟩))
  · exact .inr (.inr (.inr (.inl ⟨fourBytes, rfl, rfl⟩)))
  · exact .inr (.inr (.inr (.inr ⟨fits, rfl, rfl⟩)))

/-- The information of a header has five bits. -/
theorem information_lt {value : Nat} (fits : value < UInt64.size) : information value < 32 := by
  rcases argumentWidth_cases fits with ⟨bound, _, is⟩ | ⟨_, _, is⟩ | ⟨_, _, is⟩ | ⟨_, _, is⟩ |
    ⟨_, _, is⟩
  · omega
  all_goals
    rw [is]
    decide

/-- The bytes behind the first one are the argument unless it stands in the first one. -/
theorem argument_reads (start : Nat) {value : Nat} (fits : value < UInt64.size) :
    (argument start (information value)).Reads
      (BigEndian.write (argumentWidth value) value) (some value) := by
  rcases argumentWidth_cases fits with ⟨bound, width, is⟩ | ⟨bound, width, is⟩ |
    ⟨bound, width, is⟩ | ⟨bound, width, is⟩ | ⟨bound, width, is⟩
  · rw [width, is, argument, if_pos bound]
    exact Reads.done (some value)
  all_goals
    rw [width, is]
    exact (Reads.unsigned bound).map some

/-- A header is read when its argument is read behind the first byte. -/
theorem header_reads_of_argument {major information : Nat} (isMajor : major < 8)
    (isInformation : information < 32) {tail : List UInt8} {value : Option Nat}
    (takes : ∀ start, (argument start information).Reads tail value) {found : Header}
    (means : headerOf? major information value = some found) :
    header.Reads (UInt8.ofNat (32 * major + information) :: tail) found := by
  have first : (UInt8.ofNat (32 * major + information)).toNat = 32 * major + information :=
    UInt8.toNat_ofNat_of_lt (by simp only [UInt8.size]; omega)
  have majorAgain : (32 * major + information) / 32 = major := by omega
  have informationAgain : (32 * major + information) % 32 = information := by omega
  refine Reads.offset fun start => (Reads.byte _).andThen ?_
  simp only [first, majorAgain, informationAgain]
  apply (takes start).finish
  rw [means]
  exact Reads.done found

/-- A header with an argument of at most 64 bits is taken from its shortest encoding. -/
theorem header_reads {major value : Nat} (isMajor : major < 8) (fits : value < UInt64.size)
    {found : Header} (means : headerOf? major (information value) (some value) = some found) :
    header.Reads (encodeArgument major value) found :=
  header_reads_of_argument isMajor (information_lt fits) (fun start => argument_reads start fits)
    means

/-- The header of a number is read as it was written. -/
theorem header_reads_unsigned {value : Nat} (fits : value < UInt64.size) :
    header.Reads (encodeUnsigned value) (.unsigned value) :=
  header_reads (by decide) fits rfl

/-- The header of an array is read as it was written. -/
theorem header_reads_array {length : Nat} (fits : length < UInt64.size) :
    header.Reads (encodeArrayHeader length) (.array (some length)) :=
  header_reads (by decide) fits rfl

/-- A header has at most nine bytes. -/
theorem length_encodeArgument_le (major value : Nat) : (encodeArgument major value).length ≤ 9 := by
  rw [encodeArgument_eq, List.length_cons, BigEndian.length_write, argumentWidth]
  split_ifs <;> decide

/-- A header with an argument of 32 bits has at most five bytes. -/
theorem length_encodeArgument_le_five (major : Nat) {value : Nat} (fits : value < UInt32.size) :
    (encodeArgument major value).length ≤ 5 := by
  rw [encodeArgument_eq, List.length_cons, BigEndian.length_write, argumentWidth]
  split_ifs <;> decide

end ContactPlan.Cbor
