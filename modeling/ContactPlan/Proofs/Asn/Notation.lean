import ContactPlan.Asn
import ContactPlan.Proofs.Text.BigEndian
import ContactPlan.Proofs.Text.Decimal
import ContactPlan.Proofs.Text.Stops

namespace ContactPlan.Asn

/-- The four bytes of a number are those of its halves. -/
theorem octets_eq (asn : Asn) :
    asn.octets = BigEndian.write 2 (asn.toNat / 65536) ++ BigEndian.write 2 asn.toNat :=
  BigEndian.write_add 2 2 asn.toNat

theorem high_eq (asn : Asn) : asn.high = asn.toNat / 65536 := by
  have bound := asn.toNat_lt
  have fits : asn.toNat / 65536 < 256 ^ 2 := by omega
  rw [high, octets_eq, List.take_left' (BigEndian.length_write _ _),
    BigEndian.read_write_of_lt fits]

theorem low_eq (asn : Asn) : asn.low = asn.toNat % 65536 := by
  rw [low, octets_eq, List.drop_left' (BigEndian.length_write _ _)]
  exact BigEndian.read_write 2 asn.toNat

theorem high_lt (asn : Asn) : asn.high < 2 ^ 16 := by
  have bound := asn.toNat_lt
  rw [high_eq]
  omega

theorem low_lt (asn : Asn) : asn.low < 2 ^ 16 := by
  rw [low_eq]
  exact Nat.mod_lt _ (by decide)

/-- The two halves make up the number. -/
theorem halves (asn : Asn) : 65536 * asn.high + asn.low = asn.toNat := by
  rw [high_eq, low_eq, Nat.div_add_mod]

/-- A dotted text has one half on each side of the separator. -/
def dotted (high low : Nat) (separator : Char) : String :=
  Decimal.write high ++ separator.toString ++ Decimal.write low

/-- The separator stands between two numerals. -/
theorem toList_dotted (high low : Nat) (separator : Char) :
    (dotted high low separator).toList =
      Decimal.digits high ++ separator :: Decimal.digits low := by
  simp [dotted, Decimal.write]

/-- A number below the limit is written plainly. -/
theorem textWith_of_lt {asn : Asn} (small : asn.toNat < 65535) (separator : Char) :
    asn.textWith separator = Decimal.write asn.toNat := if_pos small

theorem textWith_of_le {asn : Asn} (large : 65535 ≤ asn.toNat) (separator : Char) :
    asn.textWith separator = dotted (asn.toNat / 65536) (asn.toNat % 65536) separator := by
  rw [textWith, if_neg (Nat.not_lt.mpr large), high_eq, low_eq, dotted]

/-- The asdot notation writes a number of two bytes plainly and any other as its two halves. -/
def asdot (asn : Asn) (separator : Char) : String :=
  if asn.toNat ≤ 65535 then Decimal.write asn.toNat
  else dotted (asn.toNat / 65536) (asn.toNat % 65536) separator

/-- The largest number of two bytes gets a half too many. -/
theorem dotted_ne_asdot (separator : Char) :
    textWith 65535 separator = dotted 0 65535 separator ∧
      asdot 65535 separator = Decimal.write 65535 ∧
      dotted 0 65535 separator ≠ Decimal.write 65535 := by
  refine ⟨textWith_of_le (Nat.le_refl _) separator, if_pos (Nat.le_refl _), fun same => ?_⟩
  have sameDigits := congrArg String.toList same
  rw [toList_dotted, Decimal.write, String.toList_ofList] at sameDigits
  have lengths := congrArg List.length sameDigits
  rw [List.length_append, List.length_cons] at lengths
  omega

section Separator

variable {separator : Char} (notDigit : ¬Decimal.isDigit separator)
include notDigit

/-- The digits before the separator are those of the high half. -/
theorem dotted_injective {high low otherHigh otherLow : Nat}
    (same : dotted high low separator = dotted otherHigh otherLow separator) :
    high = otherHigh ∧ low = otherLow := by
  have areDigits (value : Nat) : ∀ character ∈ Decimal.digits value, Decimal.isDigit character :=
    fun character => Decimal.isDigit_of_mem_digits
  have sameText := congrArg String.toList same
  rw [toList_dotted, toList_dotted] at sameText
  have fronts := congrArg (List.takeWhile Decimal.isDigit) sameText
  have backs := congrArg (List.dropWhile Decimal.isDigit) sameText
  rw [Text.takeWhile_append (areDigits _) (Text.stops_cons notDigit _),
    Text.takeWhile_append (areDigits _) (Text.stops_cons notDigit _)] at fronts
  rw [Text.dropWhile_append (areDigits _) (Text.stops_cons notDigit _),
    Text.dropWhile_append (areDigits _) (Text.stops_cons notDigit _), List.cons.injEq] at backs
  exact ⟨Decimal.write_injective (congrArg String.ofList fronts),
    Decimal.write_injective (congrArg String.ofList backs.2)⟩

/-- The separator is written from the limit on. -/
theorem mem_textWith_iff (asn : Asn) :
    separator ∈ (asn.textWith separator).toList ↔ 65535 ≤ asn.toNat := by
  by_cases large : 65535 ≤ asn.toNat
  · rw [textWith_of_le large, toList_dotted]
    exact iff_of_true (List.mem_append_right _ List.mem_cons_self) large
  · rw [textWith_of_lt (Nat.lt_of_not_le large), Decimal.write, String.toList_ofList]
    exact iff_of_false (Decimal.notMem_digits notDigit _) large

/-- Only the halves of a number from the limit on are written so. -/
theorem textWith_eq_dotted_iff (asn : Asn) (high low : Nat) :
    asn.textWith separator = dotted high low separator ↔
      65535 ≤ asn.toNat ∧ high = asn.toNat / 65536 ∧ low = asn.toNat % 65536 := by
  constructor
  · intro isDotted
    have large : 65535 ≤ asn.toNat := by
      rw [← mem_textWith_iff notDigit, isDotted, toList_dotted]
      exact List.mem_append_right _ List.mem_cons_self
    rw [textWith_of_le large] at isDotted
    obtain ⟨sameHigh, sameLow⟩ := dotted_injective notDigit isDotted
    exact ⟨large, sameHigh.symm, sameLow.symm⟩
  · rintro ⟨large, rfl, rfl⟩
    exact textWith_of_le large separator

/-- Every number but 65535 has the asdot notation. The separator is written from that number on,
and it is the only number that has a high half of zero in its text. -/
theorem textWith_notation (asn : Asn) :
    (asn.textWith separator = asn.asdot separator ↔ asn ≠ 65535) ∧
    (separator ∈ (asn.textWith separator).toList ↔ 65535 ≤ asn.toNat) ∧
    ∀ low, asn.textWith separator = dotted 0 low separator ↔ asn = 65535 ∧ low = 65535 := by
  have isLimit : asn = 65535 ↔ asn.toNat = 65535 := UInt32.toNat_inj.symm
  refine ⟨?_, mem_textWith_iff notDigit asn, fun low => ?_⟩
  · constructor
    · rintro same rfl
      obtain ⟨isDotted, isPlain, different⟩ := dotted_ne_asdot separator
      rw [isDotted, isPlain] at same
      exact different same
    · intro otherNumber
      rw [Ne, isLimit] at otherNumber
      rw [asdot]
      split
      next small => exact textWith_of_lt (by omega) separator
      next large => exact textWith_of_le (by omega) separator
  · rw [textWith_eq_dotted_iff notDigit, isLimit]
    omega

end Separator

/-- Above and below the one number of the limit the text keeps to the notation. -/
theorem textWith_notation_above :
    ¬Decimal.isDigit '.' ∧ textWith 65536 '.' = asdot 65536 '.' ∧
      '.' ∈ (textWith 65536 '.').toList ∧ textWith 65536 '.' ≠ dotted 0 65536 '.' ∧
      '.' ∉ (textWith 65534 '.').toList := by
  have notDigit : ¬Decimal.isDigit '.' := by decide
  obtain ⟨asdot, separated, noZero⟩ := textWith_notation notDigit 65536
  obtain ⟨-, plain, -⟩ := textWith_notation notDigit 65534
  refine ⟨notDigit, asdot.mpr (by decide), separated.mpr (by decide), ?_, ?_⟩
  · rw [Ne, noZero]
    decide
  · rw [plain]
    decide

/-- The largest number of two bytes fits in two bytes and is dotted all the same. -/
theorem two_bytes_dotted :
    (65535 : Asn).toNat ≤ 65535 ∧ textWith 65535 '.' = "0.65535" ∧
      textWith 65535 '.' ≠ Decimal.write 65535 ∧ '.' ∈ (textWith 65535 '.').toList := by
  obtain ⟨isDotted, -, different⟩ := dotted_ne_asdot '.'
  have shown : dotted 0 65535 '.' = "0.65535" := by
    simp [dotted, Decimal.write, Decimal.digits, Decimal.digitChar]
  have separated := (mem_textWith_iff (by decide : ¬Decimal.isDigit '.') 65535).mpr (by decide)
  exact ⟨by decide, isDotted.trans shown, fun plain => different (isDotted.symm.trans plain),
    separated⟩

end ContactPlan.Asn
