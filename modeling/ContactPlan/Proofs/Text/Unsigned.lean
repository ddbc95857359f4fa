import ContactPlan.Proofs.Text.Decimal
import Mathlib.Data.Nat.Digits.Defs
import Mathlib.Tactic.Ring

namespace ContactPlan.Decimal

/-- The ten digits stand in the order of their values. -/
theorem digitValue?_eq_some_iff {character : Char} {digit : Nat} :
    digitValue? character = some digit ↔
      ('0' ≤ character ∧ character ≤ '9') ∧ character.toNat - 48 = digit := by
  unfold digitValue?
  split
  next range => simp [range]
  next outside => simp [outside]

/-- The lowest digit of a numeral stands last. -/
def valueOf (numeral : List Char) : Nat :=
  Nat.ofDigits 10 (numeral.map fun character => character.toNat - 48).reverse

@[simp] theorem valueOf_nil : valueOf [] = 0 := rfl

/-- The first digit counts as often as the places behind it tell. -/
theorem valueOf_cons (first : Char) (rest : List Char) :
    valueOf (first :: rest) = 10 ^ rest.length * (first.toNat - 48) + valueOf rest := by
  unfold valueOf
  rw [List.map_cons, List.reverse_cons, Nat.ofDigits_append, Nat.ofDigits_singleton,
    List.length_reverse, List.length_map, Nat.add_comm]

/-- The value that was reached before moves up by the length of the numeral. -/
theorem extend?_eq_some_iff {start value : Nat} {numeral : List Char} :
    extend? start numeral = some value ↔
      (∀ character ∈ numeral, '0' ≤ character ∧ character ≤ '9') ∧
        10 ^ numeral.length * start + valueOf numeral = value := by
  induction numeral generalizing start with
  | nil => simp
  | cons first rest inductionHypothesis =>
      have places : 10 ^ rest.length * (10 * start + (first.toNat - 48)) + valueOf rest =
          10 ^ (first :: rest).length * start + valueOf (first :: rest) := by
        rw [valueOf_cons, List.length_cons]
        ring
      rw [extend?, List.forall_mem_cons, ← places]
      cases isFirst : digitValue? first with
      | none =>
          have notDigit : ¬('0' ≤ first ∧ first ≤ '9') := by
            intro range
            rw [digitValue?_eq_some_iff.mpr ⟨range, rfl⟩] at isFirst
            cases isFirst
          simp [notDigit]
      | some digit =>
          obtain ⟨range, rfl⟩ := digitValue?_eq_some_iff.mp isFirst
          rw [and_iff_right range]
          exact inductionHypothesis

/-- One or more ASCII digits are the numeral of a number. -/
structure Numeral (text : List Char) (value : Nat) : Prop where
  nonempty : text ≠ []
  digits : ∀ character ∈ text, '0' ≤ character ∧ character ≤ '9'
  value : valueOf text = value

/-- A text is read as a number when it is a numeral of it. -/
theorem read?_eq_some_iff {text : List Char} {value : Nat} :
    read? text = some value ↔ Numeral text value := by
  by_cases nonempty : text = []
  · subst nonempty
    exact ⟨nofun, fun numeral => absurd rfl numeral.nonempty⟩
  · rw [read?_of_ne_nil nonempty, extend?_eq_some_iff, Nat.mul_zero, Nat.zero_add]
    exact ⟨fun read => ⟨nonempty, read.1, read.2⟩, fun numeral => ⟨numeral.digits, numeral.value⟩⟩

/-- A plus sign in front does not change what a numeral denotes. -/
inductive Denotes : List Char → Nat → Prop
  | bare {text : List Char} {value : Nat} (numeral : Numeral text value) : Denotes text value
  | signed {text : List Char} {value : Nat} (numeral : Numeral text value) :
      Denotes ('+' :: text) value

/-- A text is read without a sign or with one plus sign. -/
theorem readUnsigned?_eq_some_iff {text : List Char} {value : Nat} :
    readUnsigned? text = some value ↔ Denotes text value := by
  have noSign {text : List Char} : ¬Numeral ('+' :: text) value :=
    fun numeral => absurd (numeral.digits '+' List.mem_cons_self) (by decide)
  unfold readUnsigned?
  split
  next numeral =>
    rw [read?_eq_some_iff]
    constructor
    · exact Denotes.signed
    · rintro (isNumeral | isNumeral)
      · exact absurd isNumeral noSign
      · exact isNumeral
  next text unsigned =>
    rw [read?_eq_some_iff]
    constructor
    · exact Denotes.bare
    · rintro (isNumeral | isNumeral)
      · exact isNumeral
      · exact absurd rfl (unsigned _)

/-- A number that is read is below the bound. -/
theorem readBelow?_eq_some_iff {bound value : Nat} {text : List Char} :
    readBelow? bound text = some value ↔ Denotes text value ∧ value < bound := by
  rw [readBelow?, Option.filter_eq_some_iff, readUnsigned?_eq_some_iff, decide_eq_true_iff]

/-- A numeral denotes the number that it was written for. -/
theorem denotes_digits (value : Nat) : Denotes (digits value) value :=
  .bare (read?_eq_some_iff.mp (read?_digits value))

/-- A text that denotes a number has no other characters. -/
theorem Denotes.notMem {text : List Char} {value : Nat} (denotes : Denotes text value)
    {character : Char} (notSign : character ≠ '+')
    (notDigit : ¬('0' ≤ character ∧ character ≤ '9')) : character ∉ text := by
  intro member
  cases denotes with
  | bare numeral => exact notDigit (numeral.digits character member)
  | signed numeral =>
      rcases List.mem_cons.mp member with isSign | inNumeral
      · exact notSign isSign
      · exact notDigit (numeral.digits character inNumeral)

end ContactPlan.Decimal
