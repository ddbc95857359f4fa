import ContactPlan.Asn
import ContactPlan.Proofs.Text.Unsigned
import Mathlib.Data.List.Basic
import Mathlib.Data.List.TakeWhile

namespace ContactPlan.Asn

/-- A text spells a number plainly or as its two halves. -/
inductive Spells : List Char → Nat → Prop
  | plain {text : List Char} {value : Nat} (noDot : '.' ∉ text)
      (denotes : Decimal.Denotes text value) (fits : value < 2 ^ 32) : Spells text value
  | dotted {upper lower : List Char} {high low : Nat}
      (oneDot : (upper ++ '.' :: lower).count '.' = 1)
      (upperDenotes : Decimal.Denotes upper high) (highFits : high < 2 ^ 16)
      (lowerDenotes : Decimal.Denotes lower low) (lowFits : low < 2 ^ 16) :
      Spells (upper ++ '.' :: lower) (65536 * high + low)

/-- No dot stands in a numeral. -/
theorem notMem_of_denotes {text : List Char} {value : Nat}
    (denotes : Decimal.Denotes text value) : '.' ∉ text :=
  denotes.notMem (by decide) (by decide)

/-- A number that is spelled has 32 bits. -/
theorem Spells.lt {text : List Char} {value : Nat} (spells : Spells text value) :
    value < 2 ^ 32 := by
  cases spells with
  | plain noDot denotes fits => exact fits
  | dotted oneDot upperDenotes highFits lowerDenotes lowFits => omega

/-- Numerals have no dots, so there is just the one between them. -/
theorem spells_dotted {upper lower : List Char} {high low : Nat}
    (upperDenotes : Decimal.Denotes upper high) (highFits : high < 2 ^ 16)
    (lowerDenotes : Decimal.Denotes lower low) (lowFits : low < 2 ^ 16) :
    Spells (upper ++ '.' :: lower) (65536 * high + low) := by
  refine .dotted ?_ upperDenotes highFits lowerDenotes lowFits
  rw [List.count_append, List.count_cons_self,
    List.count_eq_zero_of_not_mem (notMem_of_denotes upperDenotes),
    List.count_eq_zero_of_not_mem (notMem_of_denotes lowerDenotes)]

section Plain

variable {text : List Char} (noDot : '.' ∉ text)
include noDot

/-- Without a dot a text is read as one number of 32 bits. -/
theorem read?_of_notMem :
    read? text = (Decimal.readBelow? UInt32.size text).map UInt32.ofNat := by
  have noCut : text.dropWhile (· ≠ '.') = [] := by
    rw [List.dropWhile_eq_nil_iff]
    intro character member
    exact decide_eq_true fun isDot => noDot (isDot ▸ member)
  rw [read?, noCut]

/-- Without a dot a text spells one number of 32 bits. -/
theorem spells_of_notMem {value : Nat} :
    Spells text value ↔ Decimal.Denotes text value ∧ value < 2 ^ 32 := by
  constructor
  · intro spells
    cases spells with
    | plain _ denotes fits => exact ⟨denotes, fits⟩
    | dotted => exact absurd (List.mem_append_right _ List.mem_cons_self) noDot
  · rintro ⟨denotes, fits⟩
    exact .plain noDot denotes fits

end Plain

section Dotted

variable {upper : List Char} (noDot : '.' ∉ upper) (lower : List Char)
include noDot

/-- The text is cut at its first dot. -/
theorem read?_append :
    read? (upper ++ '.' :: lower) =
      (Decimal.readBelow? UInt16.size upper).bind fun high =>
        (Decimal.readBelow? UInt16.size lower).map fun low =>
          UInt32.ofNat (65536 * high + low) := by
  have parts : ∀ character ∈ upper, decide (character ≠ '.') :=
    fun character member => decide_eq_true fun isDot => noDot (isDot ▸ member)
  have front : (upper ++ '.' :: lower).takeWhile (· ≠ '.') = upper := by
    rw [List.takeWhile_append_of_pos parts]
    simp
  have back : (upper ++ '.' :: lower).dropWhile (· ≠ '.') = '.' :: lower := by
    rw [List.dropWhile_append_of_pos parts]
    simp
  rw [read?, front, back]
  dsimp only
  cases Decimal.readBelow? UInt16.size upper with
  | none => rfl
  | some high => cases Decimal.readBelow? UInt16.size lower <;> rfl

/-- Around the only dot a text spells the two halves of a number. -/
theorem spells_append {value : Nat} :
    Spells (upper ++ '.' :: lower) value ↔ ∃ high low,
      (Decimal.Denotes upper high ∧ high < 2 ^ 16) ∧
      (Decimal.Denotes lower low ∧ low < 2 ^ 16) ∧ 65536 * high + low = value := by
  constructor
  · intro spells
    generalize same : upper ++ '.' :: lower = text at spells
    cases spells with
    | plain none => exact absurd (same ▸ List.mem_append_right _ List.mem_cons_self) none
    | @dotted front back high low _ upperDenotes highFits lowerDenotes lowFits =>
        obtain ⟨rfl, -, rfl⟩ := (List.append_cons_inj_of_notMem (notMem_of_denotes upperDenotes)
          (notMem_of_denotes lowerDenotes)).mp same.symm
        exact ⟨high, low, ⟨upperDenotes, highFits⟩, ⟨lowerDenotes, lowFits⟩, rfl⟩
  · rintro ⟨high, low, ⟨upperDenotes, highFits⟩, ⟨lowerDenotes, lowFits⟩, rfl⟩
    exact spells_dotted upperDenotes highFits lowerDenotes lowFits

end Dotted

/-- A number of 32 bits is kept as it is. -/
theorem ofNat_eq_iff {value : Nat} (fits : value < 2 ^ 32) {asn : Asn} :
    UInt32.ofNat value = asn ↔ value = asn.toNat := by
  rw [← UInt32.toNat_inj, UInt32.toNat_ofNat_of_lt' fits]

/-- What is read is spelled, and what is spelled is read. -/
theorem read?_eq_some_iff {text : List Char} {asn : Asn} :
    read? text = some asn ↔ Spells text asn.toNat := by
  by_cases hasDot : '.' ∈ text
  · obtain ⟨upper, lower, rfl, noDot⟩ := List.eq_append_cons_of_mem hasDot
    rw [read?_append noDot, spells_append noDot]
    have fits {high low : Nat} (isHigh : Decimal.Denotes upper high ∧ high < 2 ^ 16)
        (isLow : Decimal.Denotes lower low ∧ low < 2 ^ 16) : 65536 * high + low < 2 ^ 32 :=
      (spells_dotted isHigh.1 isHigh.2 isLow.1 isLow.2).lt
    simp only [Option.bind_eq_some_iff, Option.map_eq_some_iff, Decimal.readBelow?_eq_some_iff]
    constructor
    · rintro ⟨high, isHigh, low, isLow, isAsn⟩
      exact ⟨high, low, isHigh, isLow, (ofNat_eq_iff (fits isHigh isLow)).mp isAsn⟩
    · rintro ⟨high, low, isHigh, isLow, isAsn⟩
      exact ⟨high, isHigh, low, isLow, (ofNat_eq_iff (fits isHigh isLow)).mpr isAsn⟩
  · rw [read?_of_notMem hasDot, spells_of_notMem hasDot]
    simp only [Option.map_eq_some_iff, Decimal.readBelow?_eq_some_iff]
    constructor
    · rintro ⟨value, isValue, isAsn⟩
      rw [← (ofNat_eq_iff isValue.2).mp isAsn]
      exact isValue
    · intro isValue
      exact ⟨asn.toNat, isValue, UInt32.ofNat_toNat⟩

/-- A text is accepted when it is read as a number. -/
theorem parse_eq_ok_iff {text : String} {asn : Asn} :
    parse text = .ok asn ↔ ofText? text = some asn := by
  unfold parse
  cases ofText? text <;> simp

/-- A text that is refused is quoted in the message. -/
theorem parse_eq_error_iff {text message : String} :
    parse text = .error message ↔ ofText? text = none ∧ message = complaint text := by
  unfold parse
  cases ofText? text <;> simp [eq_comm]

/-- An accepted text is read as a number. -/
def Accepted (text : String) : Prop := ∃ asn, parse text = .ok asn

/-- The accepted texts are those that are read as a number. -/
theorem accepted_iff {text : String} : Accepted text ↔ (ofText? text).isSome := by
  rw [Option.isSome_iff_exists]
  exact exists_congr fun asn => parse_eq_ok_iff

instance : DecidablePred Accepted := fun _ => decidable_of_iff _ accepted_iff.symm

/-- Accepted texts are read one by one. -/
theorem map_parse_of_accepted {texts : List String} (accepted : ∀ text ∈ texts, Accepted text) :
    texts.map parse = (texts.filterMap ofText?).map .ok := by
  induction texts with
  | nil => rfl
  | cons first rest inductionHypothesis =>
      obtain ⟨⟨asn, isRead⟩, areOthers⟩ := List.forall_mem_cons.mp accepted
      rw [List.map_cons, isRead, List.filterMap_cons_some (parse_eq_ok_iff.mp isRead),
        inductionHypothesis areOthers, List.map_cons]

/-- A text is accepted as the number that it spells. -/
theorem parse_eq_ok_iff_spells {text : String} {asn : Asn} :
    parse text = .ok asn ↔ Spells text.toList asn.toNat :=
  parse_eq_ok_iff.trans read?_eq_some_iff

/-- Every number that is spelled has 32 bits, so it is read. -/
theorem exists_parse_iff {text : String} {value : Nat} :
    (∃ asn, parse text = .ok asn ∧ asn.toNat = value) ↔ Spells text.toList value := by
  constructor
  · rintro ⟨asn, isRead, rfl⟩
    exact parse_eq_ok_iff_spells.mp isRead
  · intro spells
    have isNumber : (UInt32.ofNat value).toNat = value := UInt32.toNat_ofNat_of_lt' spells.lt
    refine ⟨UInt32.ofNat value, parse_eq_ok_iff_spells.mpr ?_, isNumber⟩
    rw [isNumber]
    exact spells

/-- A text is refused when it spells no number. -/
theorem ofText?_eq_none_iff {text : String} :
    ofText? text = none ↔ ∀ value, ¬Spells text.toList value := by
  rw [Option.eq_none_iff_forall_ne_some]
  constructor
  · intro refused value spells
    obtain ⟨asn, isRead, -⟩ := exists_parse_iff.mpr spells
    exact refused asn (parse_eq_ok_iff.mp isRead)
  · intro noSpelling asn isRead
    exact noSpelling asn.toNat (read?_eq_some_iff.mp isRead)

/-- A text is read as a number exactly when it spells the number, and no spelled number needs more
than 32 bits. All other texts are refused by name. -/
theorem parse_spells (text : String) :
    (∀ value, (∃ asn, parse text = .ok asn ∧ asn.toNat = value) ↔ Spells text.toList value) ∧
    ∀ message, parse text = .error message ↔
      message = "Invalid ASN: '" ++ text ++ "'" ∧ ∀ value, ¬Spells text.toList value := by
  refine ⟨fun value => exists_parse_iff, fun message => ?_⟩
  rw [parse_eq_error_iff, ofText?_eq_none_iff, and_comm]
  rfl

/-- Zeros and plus signs may stand in both halves, and there is no third one. -/
example : parse "+0001.+07" = .ok 65543 ∧ parse "1.2.3" = .error "Invalid ASN: '1.2.3'" :=
  ⟨rfl, rfl⟩

end ContactPlan.Asn
