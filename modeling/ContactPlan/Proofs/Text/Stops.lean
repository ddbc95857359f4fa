namespace ContactPlan.Text

/-- A run of characters ends before a text that does not go on with one of them. -/
def Stops (isPart : Char → Bool) (text : List Char) : Prop :=
  ∀ character ∈ text.head?, ¬isPart character

variable {isPart : Char → Bool} {run rest : List Char}

theorem stops_nil : Stops isPart [] := by
  intro character never
  cases never

/-- A run stops at a character that is not part of it. -/
theorem stops_cons {character : Char} (other : ¬isPart character) (rest : List Char) :
    Stops isPart (character :: rest) := by
  intro first isFirst
  cases isFirst
  exact other

/-- A run is taken up to the place where it stops. -/
theorem takeWhile_append (parts : ∀ character ∈ run, isPart character) (stops : Stops isPart rest) :
    (run ++ rest).takeWhile isPart = run := by
  have ends : rest.takeWhile isPart = [] := by
    cases rest with
    | nil => rfl
    | cons first rest => exact List.takeWhile_cons_of_neg (stops first rfl)
  rw [List.takeWhile_append_of_pos parts, ends, List.append_nil]

theorem dropWhile_append (parts : ∀ character ∈ run, isPart character) (stops : Stops isPart rest) :
    (run ++ rest).dropWhile isPart = rest := by
  have ends : rest.dropWhile isPart = rest := by
    cases rest with
    | nil => rfl
    | cons first rest => exact List.dropWhile_cons_of_neg (stops first rfl)
  rw [List.dropWhile_append_of_pos parts, ends]

/-- A run that is not empty begins with one of its characters. -/
theorem exists_cons (nonempty : run ≠ []) (parts : ∀ character ∈ run, isPart character) :
    ∃ first others, run = first :: others ∧ isPart first := by
  obtain ⟨first, others, rfl⟩ := List.exists_cons_of_ne_nil nonempty
  exact ⟨first, others, rfl, parts first List.mem_cons_self⟩

/-- A text that starts with a run does not start with another character. -/
theorem append_ne_cons {other : Char} (nonempty : run ≠ [])
    (parts : ∀ character ∈ run, isPart character) (notPart : ¬isPart other)
    (rest others : List Char) : run ++ rest ≠ other :: others := by
  obtain ⟨first, back, rfl, isFirst⟩ := exists_cons nonempty parts
  intro same
  rw [List.cons_append, List.cons.injEq] at same
  exact notPart (same.1 ▸ isFirst)

/-- Nothing is skipped before a run of characters that are not skipped. -/
theorem dropWhile_of_apart {isSkipped : Char → Bool} (nonempty : run ≠ [])
    (parts : ∀ character ∈ run, isPart character)
    (apart : ∀ character, isPart character → ¬isSkipped character) (rest : List Char) :
    (run ++ rest).dropWhile isSkipped = run ++ rest := by
  obtain ⟨first, back, rfl, isFirst⟩ := exists_cons nonempty parts
  exact List.dropWhile_cons_of_neg (apart first isFirst)

end ContactPlan.Text
