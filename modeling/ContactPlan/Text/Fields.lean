namespace ContactPlan.Fields

/-- A text without a separator is one field, and the empty text is one empty field. -/
def split (separator : Char) : List Char → List (List Char)
  | [] => [[]]
  | character :: rest =>
      if character = separator then [] :: split separator rest
      else
        match split separator rest with
        | [] => [[character]]
        | field :: fields => (character :: field) :: fields

@[simp] theorem split_nil (separator : Char) : split separator [] = [[]] := rfl

/-- There is always a field, even if it is empty. -/
theorem split_ne_nil (separator : Char) (text : List Char) : split separator text ≠ [] := by
  cases text with
  | nil => simp
  | cons character rest =>
      rw [split]
      split
      · simp
      · split <;> simp

/-- A text without a separator is its only field. -/
theorem split_of_notMem {separator : Char} {text : List Char} (absent : separator ∉ text) :
    split separator text = [text] := by
  induction text with
  | nil => rfl
  | cons character rest inductionHypothesis =>
      have restAbsent : separator ∉ rest := fun member => absent (List.mem_cons_of_mem _ member)
      have different : character ≠ separator := fun same => absent (same ▸ List.mem_cons_self)
      rw [split, if_neg different, inductionHypothesis restAbsent]

/-- The first separator ends the first field. -/
theorem split_append {separator : Char} {field : List Char} (absent : separator ∉ field)
    (rest : List Char) :
    split separator (field ++ separator :: rest) = field :: split separator rest := by
  induction field with
  | nil => exact if_pos rfl
  | cons character field inductionHypothesis =>
      have fieldAbsent : separator ∉ field := fun member => absent (List.mem_cons_of_mem _ member)
      have different : character ≠ separator := fun same => absent (same ▸ List.mem_cons_self)
      rw [List.cons_append, split, if_neg different, inductionHypothesis fieldAbsent]

/-- A separator at the end leaves an empty field behind it. -/
theorem split_concat (separator : Char) (text : List Char) :
    split separator (text ++ [separator]) = split separator text ++ [[]] := by
  induction text with
  | nil => simp [split]
  | cons character rest inductionHypothesis =>
      rw [List.cons_append, split, split, inductionHypothesis]
      by_cases separates : character = separator
      · rw [if_pos separates, if_pos separates, List.cons_append]
      · rw [if_neg separates, if_neg separates]
        cases fields : split separator rest with
        | nil => exact absurd fields (split_ne_nil separator rest)
        | cons field fields => rfl

/-- The separators come back between the fields. -/
def join (separator : Char) : List (List Char) → List Char
  | [] => []
  | [field] => field
  | field :: fields => field ++ separator :: join separator fields

end ContactPlan.Fields
