import ContactPlan.Proofs.Text.Decimal
import ContactPlan.Proofs.Text.Stops
import ContactPlan.Toml.Document

namespace ContactPlan.Toml

open Text

variable {rest : List Char}

/-- A digit can be part of a bare word. -/
theorem isWordCharacter_of_isDigit {character : Char} (isDigit : Decimal.isDigit character) :
    isWordCharacter character := by
  unfold isWordCharacter
  rw [isDigit]
  simp only [Bool.or_true, Bool.true_or]

/-- A bare word is read up to the next character that cannot be part of it. -/
theorem word?_append {word : List Char} (nonempty : word ≠ [])
    (parts : ∀ character ∈ word, isWordCharacter character) (stops : Stops isWordCharacter rest) :
    word? (word ++ rest) = some (word, rest) := by
  unfold word?
  rw [takeWhile_append parts stops, dropWhile_append parts stops]
  cases word with
  | nil => exact absurd rfl nonempty
  | cons first others => rfl

namespace Numeral

/-- A decimal digit is a hexadecimal digit of the same value. -/
theorem hexDigitValue?_digitChar :
    ∀ digit < 10, Hex.digitValue? (Decimal.digitChar digit) = some digit := by decide

theorem isDigitOf_of_isDigit {character : Char} (isDigit : Decimal.isDigit character) :
    isDigitOf 10 character := by
  have range := Decimal.toNat_of_isDigit isDigit
  have isDecimal : '0' ≤ character ∧ character ≤ '9' :=
    ⟨UInt32.le_iff_toNat_le.mpr range.1, UInt32.le_iff_toNat_le.mpr range.2⟩
  simp only [isDigitOf, Hex.digitValue?, if_pos isDecimal, Option.any_some, decide_eq_true_eq]
  omega

/-- The value of a numeral is the number that it was written for. -/
theorem value_digits (number : Nat) : value 10 (Decimal.digits number) = number := by
  induction number using Nat.strongRecOn with
  | ind number inductionHypothesis =>
      rw [Decimal.digits]
      split
      next single =>
        simp only [value, List.foldl_cons, List.foldl_nil, hexDigitValue?_digitChar number single,
          Option.getD_some, Nat.mul_zero, Nat.zero_add]
      next =>
        have isDigit := hexDigitValue?_digitChar (number % 10) (Nat.mod_lt _ (by decide))
        have front := inductionHypothesis (number / 10) (by omega)
        unfold value at front ⊢
        rw [List.foldl_append, front]
        simp only [List.foldl_cons, List.foldl_nil, isDigit, Option.getD_some]
        omega

/-- A numeral has no zero in front unless it is zero. -/
theorem digits?_digits (number : Nat) :
    digits? 10 false (Decimal.digits number) = some (Decimal.digits number, []) := by
  have noMark : '_' ∉ Decimal.digits number := Decimal.notMem_digits (by decide) number
  have run : (Decimal.digits number ++ []).takeWhile
      (fun character => isDigitOf 10 character || character == '_') = Decimal.digits number :=
    takeWhile_append (fun character member => by
      rw [isDigitOf_of_isDigit (Decimal.isDigit_of_mem_digits member), Bool.true_or]) stops_nil
  rw [List.append_nil] at run
  have kept : (Decimal.digits number).filter (· ≠ '_') = Decimal.digits number := by
    rw [List.filter_eq_self]
    intro character member
    exact decide_eq_true fun same => noMark (same ▸ member)
  have filled : (Decimal.digits number).isEmpty = false :=
    List.isEmpty_eq_false_iff.mpr (Decimal.digits_ne_nil number)
  have noZero : ((Decimal.digits number).length == 1 ||
      (Decimal.digits number).head? != some '0') = true := by
    rcases Nat.eq_zero_or_pos number with rfl | positive
    · rw [Decimal.digits]
      rfl
    · rw [bne_iff_ne.mpr (Decimal.head?_digits_ne positive), Bool.or_true]
  unfold digits?
  simp only [run, Fields.split_of_notMem noMark, kept, List.drop_length, List.all_cons,
    List.all_nil, filled, Bool.false_or, noZero, Bool.not_false, Bool.and_self, if_true]

/-- The limit of the integers is above every signed number with 64 bits. -/
def limit : Nat := 9223372036854775808

/-- A numeral is read as the integer that it was written for. -/
theorem decimal?_digits {number : Nat} (fits : number < limit) :
    decimal? (Decimal.digits number) = some (.integer number) := by
  have unsigned : signedDigits? false (Decimal.digits number) =
      some (false, Decimal.digits number, []) := by
    unfold signedDigits?
    split
    next others isNumeral =>
      exact absurd (isNumeral ▸ List.mem_cons_self)
        (Decimal.notMem_digits (show ¬Decimal.isDigit '-' by decide) number)
    next => rw [digits?_digits, Option.map_some]
  have bounds : Int64.minValue.toInt ≤ (number : Int) ∧ (number : Int) ≤ Int64.maxValue.toInt := by
    have first : Int64.minValue.toInt = -9223372036854775808 := rfl
    have last : Int64.maxValue.toInt = 9223372036854775807 := rfl
    rw [first, last]
    unfold limit at fits
    omega
  simp only [decimal?, unsigned, value_digits, Bool.false_eq_true, if_false, integer?,
    if_pos bounds]

/-- A numeral has digits only. -/
theorem contains_digits {character : Char} (notDigit : ¬Decimal.isDigit character) (number : Nat) :
    (Decimal.digits number).contains character = false := by
  rw [List.contains_eq_mem]
  exact decide_eq_false (Decimal.notMem_digits notDigit number)

/-- What begins with a numeral begins with a digit. -/
theorem digits_append_ne_cons {first : Char} (notDigit : ¬Decimal.isDigit first) (number : Nat)
    (back others : List Char) : Decimal.digits number ++ back ≠ first :: others :=
  append_ne_cons (Decimal.digits_ne_nil number) (fun _ => Decimal.isDigit_of_mem_digits) notDigit
    back others

theorem digits_ne_cons {first : Char} (notDigit : ¬Decimal.isDigit first) (number : Nat)
    (others : List Char) : Decimal.digits number ≠ first :: others :=
  List.append_nil (Decimal.digits number) ▸ digits_append_ne_cons notDigit number [] others

/-- A numeral is no special float. -/
theorem isSpecial_digits (number : Nat) : isSpecial (Decimal.digits number) = false := by
  change decide (Decimal.digits number ∈
    [['i', 'n', 'f'], ['-', 'i', 'n', 'f'], ['n', 'a', 'n'], ['-', 'n', 'a', 'n']]) = false
  apply decide_eq_false
  simp only [List.mem_cons, List.not_mem_nil, or_false, not_or]
  exact ⟨digits_ne_cons (by decide) _ _, digits_ne_cons (by decide) _ _,
    digits_ne_cons (by decide) _ _, digits_ne_cons (by decide) _ _⟩

/-- A numeral is neither in another base nor the front of a float. -/
theorem read?_digits {number : Nat} (fits : number < limit) :
    read? (Decimal.digits number) ('\n' :: rest) = some (.integer number, '\n' :: rest) := by
  have absent {character : Char} (notDigit : ¬Decimal.isDigit character) :=
    Decimal.notMem_digits notDigit number
  unfold read?
  split
  next same => exact absurd (by simp [same]) (absent (show ¬Decimal.isDigit 'x' by decide))
  next same => exact absurd (by simp [same]) (absent (show ¬Decimal.isDigit 'o' by decide))
  next same => exact absurd (by simp [same]) (absent (show ¬Decimal.isDigit 'b' by decide))
  next =>
    have noExponent := contains_digits (show ¬Decimal.isDigit 'e' by decide) number
    have noCapital := contains_digits (show ¬Decimal.isDigit 'E' by decide) number
    simp only [noExponent, noCapital, Bool.or_self, Bool.false_eq_true, if_false,
      isSpecial_digits, decimal?_digits fits, Option.map_some]
    rfl

end Numeral

theorem isMomentWord_digits (number : Nat) : isMomentWord (Decimal.digits number) = false := by
  have noLetter := Numeral.contains_digits (show ¬Decimal.isDigit 'T' by decide) number
  have noSmallLetter := Numeral.contains_digits (show ¬Decimal.isDigit 't' by decide) number
  have noHyphen := Decimal.notMem_digits (show ¬Decimal.isDigit '-' by decide) number
  cases isNumeral : Decimal.digits number with
  | nil => rfl
  | cons first others =>
      have noneInside : others.contains '-' = false := by
        rw [List.contains_eq_mem]
        exact decide_eq_false fun member =>
          noHyphen (isNumeral ▸ List.mem_cons_of_mem first member)
      rw [isNumeral] at noLetter noSmallLetter
      simp only [isMomentWord, noLetter, noSmallLetter, noneInside, Bool.or_self, Bool.false_and]

/-- A numeral is a number. -/
theorem isNumberWord_digits (number : Nat) : isNumberWord (Decimal.digits number) = true := by
  obtain ⟨first, others, isNumeral, isDigit⟩ :=
    exists_cons (Decimal.digits_ne_nil number) fun _ => Decimal.isDigit_of_mem_digits
  simp only [isNumberWord, isNumeral, List.head?_cons, Option.any_some, isDigit, Bool.or_true]

/-- A numeral that ends its line is read as its number. -/
theorem readWord?_digits {number : Nat} (fits : number < Numeral.limit) (rest : List Char) :
    readWord? (Decimal.digits number ++ '\n' :: rest) = some (.integer number, '\n' :: rest) := by
  have word := word?_append (Decimal.digits_ne_nil number)
    (fun character member => isWordCharacter_of_isDigit (Decimal.isDigit_of_mem_digits member))
    (stops_cons (show ¬isWordCharacter '\n' by decide) rest)
  have notTrue : Decimal.digits number ≠ "true".toList :=
    Numeral.digits_ne_cons (by decide) number ['r', 'u', 'e']
  have notFalse : Decimal.digits number ≠ "false".toList :=
    Numeral.digits_ne_cons (by decide) number ['a', 'l', 's', 'e']
  simp only [readWord?, word, Option.bind_eq_bind, Option.bind_some, if_neg notTrue,
    if_neg notFalse, readNumber?, isNumberWord_digits, isMomentWord_digits, Bool.not_true,
    Bool.false_eq_true, if_false, Numeral.read?_digits fits]
  rfl

/-- These characters stand for themselves between quotation marks. -/
def Quoted.isOpen (character : Char) : Bool :=
  Quoted.isPlain character && character != '"' && character != '\\'

/-- A text of open characters is written without escapes. -/
def Opens (text : List Char) : Prop := ∀ character ∈ text, Quoted.isOpen character

instance (text : List Char) : Decidable (Opens text) :=
  List.decidableBAll (fun character => Quoted.isOpen character) text

/-- A character that needs no escape may stand before an open text. -/
theorem opens_cons {first : Char} {others : List Char} (isFirst : Quoted.isOpen first)
    (areOthers : Opens others) : Opens (first :: others) :=
  List.forall_mem_cons.mpr ⟨isFirst, areOthers⟩

theorem Opens.append {front back : List Char} (isFront : Opens front) (isBack : Opens back) :
    Opens (front ++ back) := List.forall_mem_append.mpr ⟨isFront, isBack⟩

theorem opens_of_isDigit {text : List Char}
    (digits : ∀ character ∈ text, Decimal.isDigit character) : Opens text := by
  intro character member
  have isDigit := digits character member
  have other {mark : Char} (notDigit : ¬Decimal.isDigit mark) : character ≠ mark := by
    rintro rfl
    exact notDigit isDigit
  have above : 32 ≤ character.toNat := Nat.le_trans (by decide) (Decimal.toNat_of_isDigit isDigit).1
  have notControl : ' ' ≤ character := UInt32.le_iff_toNat_le.mpr above
  have noDelete := other (show ¬Decimal.isDigit '\x7f' by decide)
  have noMark := bne_iff_ne.mpr (other (show ¬Decimal.isDigit '"' by decide))
  have noEscape := bne_iff_ne.mpr (other (show ¬Decimal.isDigit '\\' by decide))
  simp only [Quoted.isOpen, Quoted.isPlain, notControl, noDelete, noMark, noEscape, ne_eq,
    not_false_eq_true, decide_true, Bool.and_self, Bool.or_true]

theorem opens_digits (value : Nat) : Opens (Decimal.digits value) :=
  opens_of_isDigit fun _ => Decimal.isDigit_of_mem_digits

/-- A numeral that is filled up needs no escape. -/
theorem opens_padded (width value : Nat) : Opens (Decimal.padded width value).toList :=
  opens_of_isDigit (Decimal.isDigit_of_read? (Decimal.read?_padded width value)).2

/-- A text without escapes is read up to its quotation mark. -/
theorem Quoted.line_append {text : List Char} (opens : Opens text) {fuel : Nat}
    (enough : text.length < fuel) (rest : List Char) :
    line fuel '"' (text ++ '"' :: rest) = some (text, rest) := by
  induction text generalizing fuel with
  | nil =>
      obtain ⟨fuel, rfl⟩ := Nat.exists_eq_add_one_of_ne_zero (Nat.ne_of_gt enough)
      rfl
  | cons first others inductionHypothesis =>
      obtain ⟨fuel, rfl⟩ := Nat.exists_eq_add_one_of_ne_zero (Nat.ne_zero_of_lt enough)
      have isFirst := opens first List.mem_cons_self
      simp only [isOpen, Bool.and_eq_true, bne_iff_ne] at isFirst
      obtain ⟨⟨plain, noMark⟩, noEscape⟩ := isFirst
      have found := inductionHypothesis
        (fun character member => opens character (List.mem_cons_of_mem _ member))
        (Nat.lt_of_succ_lt_succ enough)
      rw [List.cons_append, line, if_neg noMark, if_neg fun both => noEscape both.1, if_pos plain,
        found]
      rfl

/-- Only two marks in front allow line breaks. -/
theorem Quoted.after?_of_take {mark : Char} {text : List Char}
    (noMarks : text.take 2 ≠ [mark, mark]) :
    after? mark text = (line text.length mark text).map (Found.of false) := by
  unfold after?
  split
  next first second others =>
    exact if_neg fun ⟨isFirst, isSecond⟩ => noMarks (by rw [isFirst, isSecond]; rfl)
  next => rfl

/-- A text between quotation marks is read up to the end of its line. -/
theorem readText?_append {text : List Char} (opens : Opens text) (rest : List Char) :
    readText? ('"' :: (text ++ '"' :: '\n' :: rest)) =
      some (.text (String.ofList text), '\n' :: rest) := by
  have found := Quoted.line_append opens
    (show text.length < (text ++ '"' :: '\n' :: rest).length by simp) ('\n' :: rest)
  have noMarks : (text ++ '"' :: '\n' :: rest).take 2 ≠ ['"', '"'] := by
    cases text with
    | nil => simp
    | cons first others =>
        intro marks
        have isMark : first = '"' := (List.cons.inj marks).1
        exact absurd (isMark ▸ opens first List.mem_cons_self) (by decide)
  rw [readText?, Quoted.read?, Quoted.after?_of_take noMarks, found]
  rfl

/-- A line gives a name to a text or to a number. -/
inductive Scalar where
  | text (value : String)
  | number (value : Nat)

namespace Scalar

def value : Scalar → Value
  | .text value => .text value
  | .number value => .integer value

def written : Scalar → List Char
  | .text value => '"' :: (value.toList ++ ['"'])
  | .number value => Decimal.digits value

/-- A text is written without escapes, and a number is not too large to be read. -/
def Writable : Scalar → Prop
  | .text value => Opens value.toList
  | .number value => value < Numeral.limit

/-- A written value is read up to the end of its line. -/
theorem value?_written {scalar : Scalar} (writable : scalar.Writable) (fuel : Nat)
    (rest : List Char) :
    value? (fuel + 1) (scalar.written ++ '\n' :: rest) = some (scalar.value, '\n' :: rest) := by
  cases scalar with
  | text text =>
      have found := readText?_append writable rest
      rw [String.ofList_toList] at found
      rw [written, List.cons_append, List.append_assoc, value?]
      exact found
  | number number =>
      have other {first : Char} (notDigit : ¬Decimal.isDigit first) :=
        Numeral.digits_append_ne_cons notDigit number ('\n' :: rest)
      unfold value? written
      split
      next same => exact absurd same (other (by decide) _)
      next same => exact absurd same (other (by decide) _)
      next same => exact absurd same (other (by decide) _)
      next same => exact absurd same (other (by decide) _)
      next same => exact absurd same (other (by decide) _)
      next => exact readWord?_digits writable rest

end Scalar

/-- A name that is one word needs no marks. -/
def Bare (name : String) : Prop :=
  name.toList ≠ [] ∧ ∀ character ∈ name.toList, isWordCharacter character

instance (name : String) : Decidable (Bare name) :=
  @instDecidableAnd _ _ inferInstance
    (List.decidableBAll (fun character => isWordCharacter character) name.toList)

/-- A setting stands on a line of its own. -/
structure Setting where
  name : String
  scalar : Scalar

namespace Setting

def member (setting : Setting) : String × Value := (setting.name, setting.scalar.value)

/-- A setting is written on a line of its own. -/
def line (setting : Setting) : List Char :=
  setting.name.toList ++ ' ' :: '=' :: ' ' :: (setting.scalar.written ++ ['\n'])

structure Writable (setting : Setting) : Prop where
  bare : Bare setting.name
  scalar : setting.scalar.Writable

/-- A text without escapes can be written in a line. -/
theorem writable_text {name text : String} (bare : Bare name) (opens : Opens text.toList) :
    Writable ⟨name, .text text⟩ := ⟨bare, opens⟩

/-- A number within the limit can be written in a line. -/
theorem writable_number {name : String} {number : Nat} (bare : Bare name)
    (fits : number < Numeral.limit) : Writable ⟨name, .number number⟩ := ⟨bare, fits⟩

end Setting

/-- A bare name is read up to the next character that cannot be part of it. -/
theorem key?_append {name : String} (bare : Bare name) (stops : Stops isWordCharacter rest) :
    key? (name.toList ++ rest) = some (name, rest) := by
  obtain ⟨nonempty, parts⟩ := bare
  have other {mark : Char} (notPart : ¬isWordCharacter mark) :=
    append_ne_cons nonempty parts notPart rest
  have unquoted : Quoted.read? (name.toList ++ rest) = none := by
    unfold Quoted.read?
    split
    next same => exact absurd same (other (by decide) _)
    next same => exact absurd same (other (by decide) _)
    next => rfl
  simp only [key?, unquoted, word?_append nonempty parts stops, Option.map_some,
    String.ofList_toList]

/-- No blank is part of a bare word. -/
theorem not_isBlank_of_isWordCharacter (character : Char) (isPart : isWordCharacter character) :
    ¬isBlank character := by
  intro blank
  simp only [isBlank, Bool.or_eq_true, beq_iff_eq] at blank
  rcases blank with rfl | rfl
  · exact absurd isPart (by decide)
  · exact absurd isPart (by decide)

/-- No blank stands before a bare name. -/
theorem Bare.skipBlanks_append {name : String} (bare : Bare name) (rest : List Char) :
    skipBlanks (name.toList ++ rest) = name.toList ++ rest :=
  dropWhile_of_apart bare.1 bare.2 not_isBlank_of_isWordCharacter rest

/-- No blank stands before a written value. -/
theorem Scalar.skipBlanks_written (scalar : Scalar) (rest : List Char) :
    skipBlanks (scalar.written ++ rest) = scalar.written ++ rest := by
  cases scalar with
  | text text => exact List.dropWhile_cons_of_neg (by decide)
  | number number =>
      exact dropWhile_of_apart (Decimal.digits_ne_nil number)
        (fun _ member => isWordCharacter_of_isDigit (Decimal.isDigit_of_mem_digits member))
        not_isBlank_of_isWordCharacter rest

namespace Setting

variable {setting : Setting}

/-- A line begins with one name. -/
theorem keyPath?_line (writable : setting.Writable) (fuel : Nat) (rest : List Char) :
    keyPath? (fuel + 1) (setting.line ++ rest) =
      some ([setting.name], '=' :: ' ' :: (setting.scalar.written ++ '\n' :: rest)) := by
  have isKey := key?_append writable.bare
    (stops_cons (show ¬isWordCharacter ' ' by decide)
      ('=' :: ' ' :: (setting.scalar.written ++ '\n' :: rest)))
  have whole : setting.line ++ rest = setting.name.toList ++
      ' ' :: '=' :: ' ' :: (setting.scalar.written ++ '\n' :: rest) := by simp [line]
  rw [whole, keyPath?, isKey]
  rfl

/-- A setting is added to the members before it. -/
theorem pair?_line (writable : setting.Writable) (members : Members) (rest : List Char) :
    pair? members (setting.line ++ rest) = some (members ++ [setting.member], rest) := by
  have assigned : assigned? ('=' :: ' ' :: (setting.scalar.written ++ '\n' :: rest)) =
      some (setting.scalar.written ++ '\n' :: rest) := by
    have value := setting.scalar.skipBlanks_written ('\n' :: rest)
    exact congrArg some value
  have ended : endLine? ('\n' :: rest) = some rest := rfl
  simp only [pair?, keyPath?_line writable, assigned, Scalar.value?_written writable.scalar,
    ended, Option.bind_eq_bind, Option.bind_some]
  rfl

end Setting

end ContactPlan.Toml
