import ContactPlan.Text.Decimal

namespace ContactPlan.Decimal

/-- A digit is read as it is written. -/
theorem digitValue?_digitChar : ∀ digit < 10, digitValue? (digitChar digit) = some digit := by
  decide

/-- The reader goes on with the value that it has reached. -/
theorem extend?_append (value : Nat) (front back : List Char) :
    extend? value (front ++ back) = (extend? value front).bind (extend? · back) := by
  induction front generalizing value with
  | nil => rfl
  | cons character rest inductionHypothesis =>
      rw [List.cons_append, extend?, extend?]
      cases digitValue? character with
      | none => rfl
      | some digit => exact inductionHypothesis _

theorem digits_ne_nil (value : Nat) : digits value ≠ [] := by
  rw [digits]
  split
  · exact List.cons_ne_nil _ _
  · exact List.concat_ne_nil _ _

/-- The numeral of a number extends zero to the number. -/
theorem extend?_digits (value : Nat) : extend? 0 (digits value) = some value := by
  induction value using Nat.strongRecOn with
  | ind value inductionHypothesis =>
      rw [digits]
      split
      next single => simp [extend?, digitValue?_digitChar value single]
      next =>
        have isDigit := digitValue?_digitChar (value % 10) (Nat.mod_lt _ (by decide))
        have read := inductionHypothesis (value / 10) (by omega)
        rw [extend?_append, read]
        simp only [Option.bind_some, extend?, isDigit, Option.some.injEq]
        omega

theorem read?_of_ne_nil {numeral : List Char} (nonempty : numeral ≠ []) :
    read? numeral = extend? 0 numeral := by
  cases numeral with
  | nil => exact absurd rfl nonempty
  | cons first rest => rfl

theorem read?_digits (value : Nat) : read? (digits value) = some value := by
  rw [read?_of_ne_nil (digits_ne_nil value), extend?_digits]

/-- Zeros in front of a numeral do not change its value. -/
theorem extend?_replicate (zeros : Nat) (numeral : List Char) :
    extend? 0 (List.replicate zeros '0' ++ numeral) = extend? 0 numeral := by
  induction zeros with
  | zero => rfl
  | succ zeros inductionHypothesis => exact inductionHypothesis

/-- Zeros fill up a numeral to its width. -/
theorem toList_padded (width value : Nat) :
    (padded width value).toList =
      List.replicate (width - (digits value).length) '0' ++ digits value := String.toList_ofList

/-- Zeros in front of a numeral do not count. -/
theorem read?_padded (width value : Nat) : read? (padded width value).toList = some value := by
  rw [toList_padded, read?_of_ne_nil (List.append_ne_nil_of_right_ne_nil _ (digits_ne_nil value)),
    extend?_replicate, extend?_digits]

/-- A numeral has one digit more than the numeral of its tenth. -/
theorem length_digits_le {width value : Nat} (fits : value < Nat.pow 10 (width + 1)) :
    (digits value).length ≤ width + 1 := by
  induction width generalizing value with
  | zero =>
      rw [digits, if_pos (by simpa using fits)]
      exact Nat.le_refl _
  | succ width inductionHypothesis =>
      rw [digits]
      split
      · exact Nat.le_add_left _ _
      · have shorter : value / 10 < Nat.pow 10 (width + 1) := by
          change value < Nat.pow 10 (width + 1) * 10 at fits
          omega
        rw [List.length_append]
        exact Nat.succ_le_succ (inductionHypothesis shorter)

/-- A numeral that is not too long fills its width. -/
theorem length_padded {width value : Nat} (fits : value < Nat.pow 10 (width + 1)) :
    (padded (width + 1) value).toList.length = width + 1 := by
  have short := length_digits_le fits
  rw [toList_padded, List.length_append, List.length_replicate]
  omega

/-- What can be read has digits only. -/
theorem isDigit_of_extend? {numeral : List Char} {start value : Nat}
    (read : extend? start numeral = some value) : ∀ character ∈ numeral, isDigit character := by
  induction numeral generalizing start with
  | nil => simp
  | cons first rest inductionHypothesis =>
      rw [extend?] at read
      cases isFirst : digitValue? first with
      | none =>
          rw [isFirst] at read
          cases read
      | some digit =>
          rw [isFirst] at read
          intro character member
          rcases List.mem_cons.mp member with rfl | later
          · rw [isDigit, isFirst]
            rfl
          · exact inductionHypothesis read character later

/-- A text that is read is not empty and has digits only. -/
theorem isDigit_of_read? {numeral : List Char} {value : Nat} (read : read? numeral = some value) :
    numeral ≠ [] ∧ ∀ character ∈ numeral, isDigit character := by
  cases numeral with
  | nil => cases read
  | cons first rest => exact ⟨List.cons_ne_nil _ _, isDigit_of_extend? read⟩

/-- The numeral of a number but zero has no zero in front. -/
theorem head?_digits_ne {value : Nat} (positive : 0 < value) : (digits value).head? ≠ some '0' := by
  induction value using Nat.strongRecOn with
  | ind value inductionHypothesis =>
      rw [digits]
      split
      next single =>
        have apart : ∀ digit < 10, 0 < digit → [digitChar digit].head? ≠ some '0' := by decide
        exact apart value single positive
      next =>
        have noZero := inductionHypothesis (value / 10) (by omega) (by omega)
        obtain ⟨first, others, isNumeral⟩ := List.exists_cons_of_ne_nil (digits_ne_nil (value / 10))
        rw [isNumeral] at noZero ⊢
        exact noZero

/-- A numeral has digits only. -/
theorem isDigit_of_mem_digits {value : Nat} {character : Char} (member : character ∈ digits value) :
    isDigit character := (isDigit_of_read? (read?_digits value)).2 character member

theorem toNat_of_isDigit {character : Char} (isDigit : Decimal.isDigit character) :
    48 ≤ character.toNat ∧ character.toNat ≤ 57 := by
  have range : '0' ≤ character ∧ character ≤ '9' := by
    unfold Decimal.isDigit digitValue? at isDigit
    split at isDigit
    · assumption
    · cases isDigit
  exact ⟨UInt32.le_iff_toNat_le.mp range.1, UInt32.le_iff_toNat_le.mp range.2⟩

/-- No other character is part of a numeral. -/
theorem notMem_digits {character : Char} (notDigit : ¬isDigit character) (value : Nat) :
    character ∉ digits value := fun member => notDigit (isDigit_of_mem_digits member)

/-- No two numbers are written alike. -/
theorem write_injective {left right : Nat} (same : write left = write right) : left = right := by
  have sameDigits : digits left = digits right := String.ofList_injective same
  have read := read?_digits left
  rw [sameDigits, read?_digits] at read
  exact (Option.some.inj read).symm

end ContactPlan.Decimal
