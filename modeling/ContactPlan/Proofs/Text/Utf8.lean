import ContactPlan.Text.Utf8
import Mathlib.Tactic.SplitIfs

namespace ContactPlan.Utf8

/-- Valid bytes are those that characters are encoded to. -/
def Valid (bytes : List UInt8) : Prop :=
  ∃ characters : List Char, bytes = characters.flatMap String.utf8EncodeChar

theorem valid_nil : Valid [] := ⟨[], rfl⟩

/-- Six bits make a byte that goes on with a character. -/
theorem isTail_ofNat (digit : Nat) : isTail (UInt8.ofNat (digit % 64 + 128)) := by
  have value : (UInt8.ofNat (digit % 64 + 128)).toNat = digit % 64 + 128 :=
    UInt8.toNat_ofNat_of_lt (by simp only [UInt8.size]; omega)
  simp only [isTail, Bool.and_eq_true, decide_eq_true_eq, UInt8.le_iff_toNat_le, value,
    UInt8.reduceToNat]
  omega

/-- A character is recognized by its first two bytes when its other bytes are tails.
Its second byte keeps overlong forms, surrogates and large numbers out. -/
theorem isCharacter_of_toNat {first second : UInt8} {rest : List UInt8} {lead next : Nat}
    (isFirst : first.toNat = lead) (isSecond : second.toNat = next)
    (leads : (194 ≤ lead ∧ lead ≤ 223 ∧ rest.length = 0) ∨
      (224 ≤ lead ∧ lead ≤ 239 ∧ rest.length = 1) ∨ (240 ≤ lead ∧ lead ≤ 244 ∧ rest.length = 2))
    (within : 128 ≤ next ∧ next ≤ 191 ∧ (lead = 224 → 160 ≤ next) ∧ (lead = 237 → next ≤ 159) ∧
      (lead = 240 → 144 ≤ next) ∧ (lead = 244 → next ≤ 143)) (tails : rest.all isTail) :
    width? first = some (rest.length + 2) ∧ isCharacter (first :: second :: rest) := by
  constructor
  · simp only [width?, Bool.and_eq_true, decide_eq_true_eq, UInt8.le_iff_toNat_le, isFirst,
      UInt8.reduceToNat]
    split_ifs with one two three four
    · omega
    · exact congrArg some (by omega)
    · exact congrArg some (by omega)
    · exact congrArg some (by omega)
    · omega
  · simp only [isCharacter, Bool.and_eq_true, decide_eq_true_eq]
    refine ⟨?_, tails⟩
    simp only [secondRange, ← UInt8.toNat_inj, isFirst, UInt8.reduceToNat]
    split_ifs <;> simp only [UInt8.le_iff_toNat_le, isSecond, UInt8.reduceToNat] <;> omega

/-- The first byte of a character tells how many bytes encode it. -/
theorem utf8EncodeChar_eq_cons (character : Char) :
    ∃ first rest, String.utf8EncodeChar character = first :: rest ∧
      width? first = some (rest.length + 1) ∧ isCharacter (first :: rest) := by
  have isScalar := character.valid
  unfold UInt32.isValidChar Nat.isValidChar at isScalar
  unfold String.utf8EncodeChar
  generalize character.val.toNat = number at isScalar
  have byte (value : Nat) (small : value < 256) : (UInt8.ofNat value).toNat = value :=
    UInt8.toNat_ofNat_of_lt small
  simp only
  split_ifs with one two three
  · refine ⟨_, _, rfl, ?_, rfl⟩
    have small : UInt8.ofNat number ≤ 0x7F := by
      rw [UInt8.le_iff_toNat_le, byte number (by omega)]
      exact one
    rw [width?, if_pos small]
    rfl
  · have recognized := isCharacter_of_toNat (byte (number / 64 % 32 + 192) (by omega))
      (byte (number % 64 + 128) (by omega)) (.inl ⟨by omega, by omega, rfl⟩) (by omega) List.all_nil
    exact ⟨_, _, rfl, recognized⟩
  · have recognized := isCharacter_of_toNat (byte (number / 4096 % 16 + 224) (by omega))
      (byte (number / 64 % 64 + 128) (by omega)) (.inr (.inl ⟨by omega, by omega, rfl⟩)) (by omega)
      (List.all_eq_true.mpr fun _ member => List.mem_singleton.mp member ▸ isTail_ofNat number)
    exact ⟨_, _, rfl, recognized⟩
  · have tails : [UInt8.ofNat (number / 64 % 64 + 128), UInt8.ofNat (number % 64 + 128)].all
        isTail := by
      rw [List.all_cons, List.all_cons, isTail_ofNat, isTail_ofNat]
      rfl
    have recognized := isCharacter_of_toNat (byte (number / 262144 % 8 + 240) (by omega))
      (byte (number / 4096 % 64 + 128) (by omega)) (.inr (.inr ⟨by omega, by omega, rfl⟩))
      (by omega) tails
    exact ⟨_, _, rfl, recognized⟩

/-- The front of a text is its first character. -/
theorem frontWidth?_encode (character : Char) (rest : List UInt8) :
    frontWidth? (String.utf8EncodeChar character ++ rest) =
      some (String.utf8EncodeChar character).length := by
  obtain ⟨first, others, encoded, isWidth, isWhole⟩ := utf8EncodeChar_eq_cons character
  have taken : ((first :: others) ++ rest).take (others.length + 1) = first :: others :=
    List.take_left' rfl
  have isFirst : ((first :: others) ++ rest).head? = some first := rfl
  rw [encoded]
  simp only [frontWidth?, isFirst, Option.bind_eq_bind, Option.bind_some, isWidth, taken]
  exact if_pos ⟨rfl, isWhole⟩

/-- A front of one character or more is as wide as its first character. -/
theorem length_of_frontWidth? {front rest others : List UInt8} {character : Char} {width : Nat}
    (split : front ++ rest = String.utf8EncodeChar character ++ others)
    (found : frontWidth? front = some width) :
    width = (String.utf8EncodeChar character).length ∧ width ≤ front.length := by
  obtain ⟨first, tail, encoded, isWidth, -⟩ := utf8EncodeChar_eq_cons character
  cases front with
  | nil => cases found
  | cons head remaining =>
      rw [encoded, List.cons_append, List.cons_append, List.cons.injEq] at split
      obtain ⟨rfl, -⟩ := split
      simp only [frontWidth?, List.head?_cons, Option.bind_eq_bind, Option.bind_some, isWidth,
        Option.ite_none_right_eq_some, Option.some.injEq] at found
      obtain ⟨⟨whole, -⟩, rfl⟩ := found
      rw [List.length_take] at whole
      rw [encoded]
      exact ⟨rfl, by omega⟩

/-- A front that ends in its first character is shorter than that. -/
theorem length_lt_of_frontWidth? {front rest others : List UInt8} {character : Char}
    (split : front ++ rest = String.utf8EncodeChar character ++ others)
    (cut : frontWidth? front = none) : front.length < (String.utf8EncodeChar character).length := by
  refine Nat.lt_of_not_le fun longer => ?_
  obtain ⟨more, rfl⟩ : String.utf8EncodeChar character <+: front :=
    List.prefix_of_prefix_length_le ⟨others, rfl⟩ ⟨rest, split⟩ longer
  cases (frontWidth?_encode character more).symm.trans cut

/-- A valid text that does not begin with a character is empty. -/
theorem Valid.eq_nil {bytes : List UInt8} (valid : Valid bytes) (cut : frontWidth? bytes = none) :
    bytes = [] := by
  obtain ⟨characters, rfl⟩ := valid
  cases characters with
  | nil => rfl
  | cons character others =>
      rw [List.flatMap_cons, frontWidth?_encode] at cut
      cases cut

/-- What does not begin with a character is left as a whole. -/
theorem invalidRest_cut {bytes : List UInt8} (cut : frontWidth? bytes = none) :
    invalidRest bytes = bytes := by
  rw [invalidRest]
  split
  · rfl
  next found => cases cut.symm.trans found

theorem invalidRest_found {bytes : List UInt8} {width : Nat}
    (found : frontWidth? bytes = some width) :
    invalidRest bytes = invalidRest (bytes.drop width) := by
  rw [invalidRest]
  split
  next cut => cases cut.symm.trans found
  next isWidth =>
    cases isWidth.symm.trans found
    rfl

/-- What is left does not begin with a character. -/
theorem frontWidth?_invalidRest (bytes : List UInt8) : frontWidth? (invalidRest bytes) = none := by
  induction bytes using invalidRest.induct with
  | case1 bytes cut =>
      rw [invalidRest_cut cut]
      exact cut
  | case2 bytes width found inductionHypothesis =>
      rw [invalidRest_found found]
      exact inductionHypothesis

/-- Wherever valid text is cut, at most the beginning of one character is left over. -/
theorem Valid.invalidRest {front rest : List UInt8} (valid : Valid (front ++ rest)) :
    Valid (Utf8.invalidRest front ++ rest) ∧ (Utf8.invalidRest front).length ≤ 3 := by
  induction front using Utf8.invalidRest.induct with
  | case1 front cut =>
      rw [invalidRest_cut cut]
      refine ⟨valid, ?_⟩
      obtain ⟨characters, split⟩ := valid
      cases characters with
      | nil =>
          rw [(List.append_eq_nil_iff.mp split).1]
          exact Nat.zero_le 3
      | cons character others =>
          have shorter := length_lt_of_frontWidth? split cut
          rw [String.length_utf8EncodeChar] at shorter
          exact Nat.le_of_lt_succ (Nat.lt_of_lt_of_le shorter character.utf8Size_le_four)
  | case2 front width found inductionHypothesis =>
      rw [invalidRest_found found]
      apply inductionHypothesis
      obtain ⟨characters, split⟩ := valid
      cases characters with
      | nil =>
          have nonempty := (frontWidth?_pos found).2
          exact absurd (List.append_eq_nil_iff.mp split).1 nonempty
      | cons character others =>
          obtain ⟨rfl, within⟩ := length_of_frontWidth? split found
          refine ⟨others, ?_⟩
          rw [← List.drop_append_of_le_length within, split, List.flatMap_cons, List.drop_left]

end ContactPlan.Utf8
