import ContactPlan.Proofs.Asn.Grammar
import ContactPlan.Proofs.Asn.Notation

namespace ContactPlan.Asn

/-- Both notations spell the number that they were written for. -/
theorem spells_text (asn : Asn) : Spells asn.text.toList asn.toNat := by
  have noDot (value : Nat) : '.' ∉ Decimal.digits value := Decimal.notMem_digits (by decide) value
  by_cases small : asn.toNat < 65535
  · rw [text, textWith_of_lt small, Decimal.write, String.toList_ofList]
    exact .plain (noDot _) (Decimal.denotes_digits _) asn.toNat_lt
  · have dotted := spells_dotted (Decimal.denotes_digits asn.high) asn.high_lt
      (Decimal.denotes_digits asn.low) asn.low_lt
    rw [halves, high_eq, low_eq] at dotted
    rw [text, textWith_of_le (Nat.le_of_not_lt small), toList_dotted]
    exact dotted

/-- A number is read from its own text. -/
theorem parse_text (asn : Asn) : parse asn.text = .ok asn :=
  parse_eq_ok_iff_spells.mpr asn.spells_text

/-- A spelled number has no characters but digits, plus signs and dots. -/
theorem Spells.notMem {text : List Char} {value : Nat} (spells : Spells text value)
    {character : Char} (notDot : character ≠ '.') (notSign : character ≠ '+')
    (notDigit : ¬('0' ≤ character ∧ character ≤ '9')) : character ∉ text := by
  cases spells with
  | plain noDot denotes fits => exact denotes.notMem notSign notDigit
  | dotted oneDot upperDenotes highFits lowerDenotes lowFits =>
      rw [List.mem_append, List.mem_cons, not_or, not_or]
      exact ⟨upperDenotes.notMem notSign notDigit, notDot, lowerDenotes.notMem notSign notDigit⟩

/-- No blank stands in the text of a number. -/
theorem notMem_text (asn : Asn) : ' ' ∉ asn.text.toList :=
  asn.spells_text.notMem (by decide) (by decide) (by decide)

/-- A blank stands between the numbers of a path. -/
theorem toList_pathText (path : List Asn) :
    (pathText path).toList = [' '].intercalate (path.map fun asn => asn.text.toList) := by
  rw [pathText, String.toList_intercalate, List.map_map]
  rfl

/-- The spaces of a path stand between its numbers only. -/
theorem splitOn_pathText {path : List Asn} (nonempty : path ≠ []) :
    (pathText path).toList.splitOn ' ' = path.map fun asn => asn.text.toList := by
  rw [toList_pathText]
  apply List.splitOn_intercalate
  · intro piece member
    obtain ⟨asn, -, rfl⟩ := List.mem_map.mp member
    exact asn.notMem_text
  · simpa using nonempty

/-- The pieces between the blanks are read as the numbers of the path. -/
theorem parse_pieces {path : List Asn} (nonempty : path ≠ []) :
    ((pathText path).toList.splitOn ' ').map (fun piece => parse (String.ofList piece)) =
      path.map .ok := by
  rw [splitOn_pathText nonempty, List.map_map]
  apply List.map_congr_left
  intro asn _
  rw [Function.comp_apply, String.ofList_toList, parse_text]

/-- The pieces of the empty text name no system. -/
theorem pathText_eq_empty_iff {path : List Asn} : pathText path = "" ↔ path = [] := by
  constructor
  · intro isEmpty
    by_contra nonempty
    have pieces := parse_pieces nonempty
    rw [isEmpty] at pieces
    obtain ⟨first, rest, rfl⟩ := List.exists_cons_of_ne_nil nonempty
    cases pieces
  · rintro rfl
    rfl

/-- Different paths have different texts. -/
theorem pathText_injective : Function.Injective pathText := by
  intro left right same
  by_cases isEmpty : left = []
  · have otherEmpty : pathText right = "" := same ▸ pathText_eq_empty_iff.mpr isEmpty
    rw [isEmpty, pathText_eq_empty_iff.mp otherEmpty]
  · have nonempty : right ≠ [] := by
      rwa [Ne, ← pathText_eq_empty_iff, ← same, pathText_eq_empty_iff]
    have pieces := parse_pieces isEmpty
    rw [same, parse_pieces nonempty] at pieces
    have okInjective : Function.Injective (Except.ok (ε := String) (α := Asn)) :=
      fun _ _ => Except.ok.inj
    exact List.map_injective_iff.mpr okInjective pieces.symm

/-- The text of a path is empty for the empty path only. Any other path is read again from the
pieces between the spaces, so no two paths have one text, and every number is read from its own. -/
theorem pathText_faithful :
    (∀ path, pathText path = "" ↔ path = []) ∧
    (∀ path, path ≠ [] →
      ((pathText path).toList.splitOn ' ').map (fun piece => parse (String.ofList piece)) =
        path.map .ok) ∧
    Function.Injective pathText ∧
    ∀ asn, parse asn.text = .ok asn :=
  ⟨fun _ => pathText_eq_empty_iff, fun _ => parse_pieces, pathText_injective, parse_text⟩

/-- The path goes along both limits. -/
theorem pathText_faithful_limits :
    let path : List Asn := [65534, 65535, 65536, 131072, 4294967295]
    pathText path = "65534 0.65535 1.0 2.0 65535.65535" ∧
      ((pathText path).toList.splitOn ' ').map (fun piece => parse (String.ofList piece)) =
        path.map .ok := by
  intro path
  have shown : pathText path = "65534 0.65535 1.0 2.0 65535.65535" := by
    simp [path, pathText, text, textWith, high_eq, low_eq, Decimal.write, Decimal.digits,
      Decimal.digitChar]
  obtain ⟨-, again, -, -⟩ := pathText_faithful
  exact ⟨shown, again path (List.cons_ne_nil _ _)⟩

end ContactPlan.Asn
