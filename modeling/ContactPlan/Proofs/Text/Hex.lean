import ContactPlan.Text.Hex

namespace ContactPlan.Hex

/-- A hexadecimal digit is read as it is written. -/
theorem digitValue?_digitChar {digit : Nat} (small : digit < 16) :
    digitValue? (digitChar digit) = some digit := by
  have all : ∀ digit ∈ List.range 16, digitValue? (digitChar digit) = some digit := by decide
  exact all digit (List.mem_range.mpr small)

/-- Two digits are read as one byte. -/
theorem read?_pair (byte : UInt8) (rest : List Char) :
    read? (pair byte ++ rest) = (read? rest).map (byte :: ·) := by
  have bound := byte.toNat_lt
  have high : byte.toNat / 16 < 16 := by omega
  have low : byte.toNat % 16 < 16 := by omega
  have whole : UInt8.ofNat (16 * (byte.toNat / 16) + byte.toNat % 16) = byte := by
    rw [Nat.div_add_mod, UInt8.ofNat_toNat]
  change read? (digitChar (byte.toNat / 16) :: digitChar (byte.toNat % 16) :: rest) = _
  rw [read?, digitValue?_digitChar high, digitValue?_digitChar low]
  cases read? rest with
  | none => rfl
  | some bytes => simp only [whole, Option.map_some]

/-- The digits spell the bytes that they were written for. -/
theorem read?_write (bytes : List UInt8) : read? (write bytes).toList = some bytes := by
  rw [write, String.toList_ofList]
  induction bytes with
  | nil => rfl
  | cons byte rest inductionHypothesis =>
      rw [List.flatMap_cons, read?_pair, inductionHypothesis]
      rfl

end ContactPlan.Hex
