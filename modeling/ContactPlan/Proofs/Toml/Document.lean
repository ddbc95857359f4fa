import ContactPlan.Proofs.Toml.Line

namespace ContactPlan.Toml

open Text

variable {current : Section} {found : List Section} {rest : List Char} {setting : Setting}
  {name : String}

/-- These sections are found behind the pairs of the current one if the fuel suffices. -/
def Parted (text : List Char) (current : Section) (found : List Section) : Prop :=
  ∀ fuel, text.length < fuel → sections fuel current text = some found

/-- At the end of a document its last section ends. -/
theorem parted_nil : Parted [] current [current] := by
  intro fuel enough
  obtain ⟨fuel, rfl⟩ := Nat.exists_eq_add_one_of_ne_zero (Nat.ne_zero_of_lt enough)
  rfl

/-- A line that says something is not passed over. -/
theorem skipLines_cons {first : Char} (notBlank : ¬isBlank first) (noComment : first ≠ '#')
    (noBreak : first ≠ '\n') (fuel : Nat) (rest : List Char) :
    skipLines (fuel + 1) (first :: rest) = some (first :: rest) := by
  have unskipped : skipBlanks (first :: rest) = first :: rest :=
    List.dropWhile_cons_of_neg notBlank
  unfold skipLines
  rw [unskipped]
  split
  next never => cases never
  next same =>
    cases same
    exact absurd rfl noComment
  next same =>
    cases same
    exact absurd rfl noBreak
  next => rfl

/-- The line of a setting starts with its name. -/
theorem Setting.line_cons (writable : setting.Writable) (rest : List Char) :
    ∃ first others, isWordCharacter first ∧ setting.line ++ rest = first :: others := by
  obtain ⟨first, others, isName, isPart⟩ := exists_cons writable.bare.1 writable.bare.2
  rw [Setting.line, isName]
  exact ⟨first, _, isPart, rfl⟩

/-- A line joins the section in which it stands. -/
theorem parted_line (writable : setting.Writable)
    (parted : Parted rest { current with members := current.members ++ [setting.member] } found) :
    Parted (setting.line ++ rest) current found := by
  intro fuel enough
  obtain ⟨fuel, rfl⟩ := Nat.exists_eq_add_one_of_ne_zero (Nat.ne_zero_of_lt enough)
  have shorter : rest.length < fuel := by
    simp [Setting.line] at enough
    omega
  have pair := Setting.pair?_line writable current.members rest
  obtain ⟨first, others, isPart, isLine⟩ := Setting.line_cons writable rest
  have other {mark : Char} (noPart : ¬isWordCharacter mark) : first ≠ mark := by
    rintro rfl
    exact noPart isPart
  rw [isLine] at pair ⊢
  rw [sections, skipLines_cons (not_isBlank_of_isWordCharacter first isPart) (other (by decide))
    (other (by decide))]
  simp only [Option.bind_eq_bind, Option.bind_some]
  split
  next never => cases never
  next same =>
    cases same
    exact absurd isPart (by decide)
  next =>
    rw [pair, Option.bind_some]
    exact parted fuel shorter

theorem parted_lines {settings : List Setting} (writable : ∀ setting ∈ settings, setting.Writable)
    (parted : Parted rest
      { current with members := current.members ++ settings.map Setting.member } found) :
    Parted (settings.flatMap Setting.line ++ rest) current found := by
  induction settings generalizing current with
  | nil =>
      rw [List.map_nil, List.append_nil] at parted
      exact parted
  | cons setting settings inductionHypothesis =>
      obtain ⟨isFirst, areOthers⟩ := List.forall_mem_cons.mp writable
      rw [List.flatMap_cons, List.append_assoc]
      apply parted_line isFirst
      apply inductionHypothesis areOthers
      rw [List.append_assoc]
      exact parted

/-- A header in double brackets with one name makes this section. -/
def repeated (name : String) (members : Members) : Section := ⟨[name], true, members⟩

/-- A header in double brackets adds one more table under its name. -/
def headerLine (name : String) : List Char := '[' :: '[' :: (name.toList ++ [']', ']', '\n'])

/-- A header is read up to the end of its line. -/
theorem header?_headerLine (bare : Bare name) (rest : List Char) :
    header? ('[' :: (name.toList ++ ']' :: ']' :: '\n' :: rest)) =
      some (repeated name [], rest) := by
  have isKey := key?_append bare
    (stops_cons (show ¬isWordCharacter ']' by decide) (']' :: '\n' :: rest))
  have path (fuel : Nat) : keyPath? (fuel + 1) (name.toList ++ ']' :: ']' :: '\n' :: rest) =
      some ([name], ']' :: ']' :: '\n' :: rest) := by
    rw [keyPath?, isKey]
    rfl
  have ended : endLine? ('\n' :: rest) = some rest := rfl
  simp only [header?, bare.skipBlanks_append, path, ended, Option.bind_eq_bind, Option.bind_some]
  rfl

/-- A header ends one section and begins another one. -/
theorem parted_header (bare : Bare name)
    (parted : Parted rest (repeated name []) found) :
    Parted (headerLine name ++ rest) current (current :: found) := by
  intro fuel enough
  obtain ⟨fuel, rfl⟩ := Nat.exists_eq_add_one_of_ne_zero (Nat.ne_zero_of_lt enough)
  have shorter : rest.length < fuel := by
    simp [headerLine] at enough
    omega
  have whole : headerLine name ++ rest =
      '[' :: '[' :: (name.toList ++ ']' :: ']' :: '\n' :: rest) := by simp [headerLine]
  rw [whole, sections, skipLines_cons (by decide) (by decide) (by decide)]
  simp only [Option.bind_eq_bind, Option.bind_some, header?_headerLine bare rest,
    parted fuel shorter]
  rfl

/-- A table of settings is opened by its header. -/
def tableLines (name : String) (settings : List Setting) : List Char :=
  headerLine name ++ settings.flatMap Setting.line

/-- Every table begins a section of its own. -/
theorem parted_tables {tables : List (List Setting)} (bare : Bare name)
    (writable : ∀ settings ∈ tables, ∀ setting ∈ settings, setting.Writable) :
    Parted (tables.flatMap (tableLines name)) current
      (current :: tables.map fun settings => repeated name (settings.map Setting.member)) := by
  induction tables generalizing current with
  | nil => exact parted_nil
  | cons settings tables inductionHypothesis =>
      obtain ⟨isFirst, areOthers⟩ := List.forall_mem_cons.mp writable
      rw [List.flatMap_cons, tableLines, List.append_assoc]
      apply parted_header bare
      apply parted_lines isFirst
      exact inductionHypothesis areOthers

/-- An element of an array of tables has the members behind its header. -/
def element (members : Members) : Section := ⟨[], true, members⟩

/-- Every element begins with a header of its own. -/
theorem takeWhile_elements (elements : List Members) :
    (elements.map element).takeWhile (fun other => !other.startsElement) = [] ∧
      (elements.map element).dropWhile (fun other => !other.startsElement) =
        elements.map element := by
  cases elements with
  | nil => exact ⟨rfl, rfl⟩
  | cons members elements => exact ⟨rfl, rfl⟩

/-- Elements without sections inside are read as their tables. -/
theorem elementsOf_elements {elements : List Members} {fuel : Nat}
    (enough : elements.length < fuel) :
    elementsOf fuel (elements.map element) = some (elements.map (Value.table false)) := by
  induction elements generalizing fuel with
  | nil =>
      obtain ⟨fuel, rfl⟩ := Nat.exists_eq_add_one_of_ne_zero (Nat.ne_zero_of_lt enough)
      rfl
  | cons members elements inductionHypothesis =>
      obtain ⟨fuel, rfl⟩ := Nat.exists_eq_add_one_of_ne_zero (Nat.ne_zero_of_lt enough)
      have less : elements.length < fuel := Nat.lt_of_succ_lt_succ enough
      have nothing : membersOf fuel (some []) [] = some [] := by
        obtain ⟨fuel, rfl⟩ := Nat.exists_eq_add_one_of_ne_zero (Nat.ne_zero_of_lt less)
        rfl
      obtain ⟨taken, dropped⟩ := takeWhile_elements elements
      rw [List.map_cons, elementsOf, taken, dropped, nothing, inductionHypothesis less]
      simp [element]

/-- All tables under one name are found below it. -/
theorem filter_isBelow_repeated (name : String) (tables : List Members) :
    (tables.map (repeated name)).filter (Section.isBelow name) = tables.map (repeated name) := by
  rw [List.filter_eq_self]
  intro current member
  obtain ⟨members, -, rfl⟩ := List.mem_map.mp member
  exact decide_eq_true rfl

theorem filter_notBelow_repeated (name : String) (tables : List Members) :
    (tables.map (repeated name)).filter (fun other => !other.isBelow name) = [] := by
  rw [List.filter_eq_nil_iff]
  intro current member
  obtain ⟨members, -, rfl⟩ := List.mem_map.mp member
  have below : (repeated name members).isBelow name = true := decide_eq_true rfl
  rw [below]
  decide

/-- Below their common name the tables are elements. -/
theorem descend_repeated (name : String) (tables : List Members) :
    (tables.map (repeated name)).map Section.descend = tables.map element := by
  rw [List.map_map]
  rfl

/-- Tables under one name are the elements of one array. -/
theorem membersOf_repeated {tables : List Members} (nonempty : tables ≠ []) {fuel : Nat}
    (enough : tables.length + 2 < fuel) :
    membersOf fuel (some []) (tables.map (repeated name)) =
      some [(name, .array (tables.map (Value.table false)))] := by
  obtain ⟨fuel, rfl⟩ := Nat.exists_eq_add_one_of_ne_zero (Nat.ne_zero_of_lt enough)
  obtain ⟨spare, rfl⟩ := Nat.exists_eq_add_one_of_ne_zero
    (Nat.ne_zero_of_lt (Nat.lt_of_succ_lt_succ enough))
  obtain ⟨members, others, rfl⟩ := List.exists_cons_of_ne_nil nonempty
  have value : tableOf (spare + 1) true ((members :: others).map element) =
      some (.array ((members :: others).map (Value.table false))) := by
    rw [tableOf, if_pos rfl, elementsOf_elements (by omega), Option.map_some]
  have inner := filter_isBelow_repeated name (members :: others)
  have descended := descend_repeated name (members :: others)
  have outer := filter_notBelow_repeated name others
  have nothing : membersOf (spare + 1) (some []) [] = some [] := rfl
  have path : (repeated name members).path = [name] := rfl
  have doubled : (repeated name members).repeated = true := rfl
  have parent : shortest? (some []) [name] = some [] := rfl
  rw [List.map_cons] at inner descended ⊢
  rw [membersOf]
  simp only [path, doubled, parent, inner, descended, outer, List.isEmpty_nil, Bool.and_self,
    value, nothing, Option.bind_eq_bind, Option.bind_some]
  rfl

/-- No carriage return stands in a line. -/
theorem notMem_line (writable : setting.Writable) : '\x0d' ∉ setting.line := by
  intro member
  have scalar : '\x0d' ∉ setting.scalar.written := by
    have isScalar := writable.scalar
    cases same : setting.scalar with
    | text text =>
        rw [same] at isScalar
        intro member
        simp only [Scalar.written, List.mem_cons, List.mem_append, List.not_mem_nil,
          or_false] at member
        rcases member with never | inText | never
        · exact absurd never (by decide)
        · exact absurd (isScalar _ inText) (by decide)
        · exact absurd never (by decide)
    | number number => exact Decimal.notMem_digits (by decide) number
  simp only [Setting.line, List.mem_append, List.mem_cons, List.not_mem_nil, or_false] at member
  rcases member with inName | never | never | never | inScalar | never
  · exact absurd (writable.bare.2 _ inName) (by decide)
  · exact absurd never (by decide)
  · exact absurd never (by decide)
  · exact absurd never (by decide)
  · exact scalar inScalar
  · exact absurd never (by decide)

/-- Without carriage returns no break is folded. -/
theorem foldBreaks_of_notMem {text : List Char} (absent : '\x0d' ∉ text) :
    foldBreaks text = text := by
  fun_induction foldBreaks text with
  | case1 rest inductionHypothesis => exact absurd List.mem_cons_self absent
  | case2 character rest _ inductionHypothesis =>
      rw [inductionHypothesis fun member => absent (List.mem_cons_of_mem _ member)]
  | case3 => rfl

theorem sectionFuel_repeated (name : String) (tables : List Members) :
    sectionFuel (tables.map (repeated name)) = 4 * tables.length + 1 := by
  induction tables with
  | nil => rfl
  | cons members tables inductionHypothesis =>
      change 2 * 1 + 2 + sectionFuel (tables.map (repeated name)) = _
      rw [inductionHypothesis, List.length_cons]
      omega

/-- The settings of a document stand before its tables. -/
def document (root : List Setting) (name : String) (tables : List (List Setting)) : List Char :=
  root.flatMap Setting.line ++ tables.flatMap (tableLines name)

/-- Without tables their name is not set. -/
def tableMembers (name : String) (tables : List Members) : Members :=
  if tables = [] then [] else [(name, .array (tables.map (Value.table false)))]

/-- Tables under one name are listed under it. -/
theorem membersOf_tables (name : String) (tables : List Members) :
    membersOf (sectionFuel (tables.map (repeated name))) (some []) (tables.map (repeated name)) =
      some (tableMembers name tables) := by
  unfold tableMembers
  split
  next none =>
    rw [none]
    rfl
  next some =>
    have positive := List.length_pos_iff.mpr some
    rw [sectionFuel_repeated]
    exact membersOf_repeated some (by omega)

section Document

variable {root : List Setting} {tables : List (List Setting)} (rooted : root ≠ [])
  (rootWritable : ∀ setting ∈ root, setting.Writable) (bare : Bare name)
  (writable : ∀ settings ∈ tables, ∀ setting ∈ settings, setting.Writable)

include rootWritable bare writable in
theorem notMem_document : '\x0d' ∉ document root name tables := by
  intro member
  rcases List.mem_append.mp member with inRoot | inTables
  · obtain ⟨setting, isSetting, inLine⟩ := List.mem_flatMap.mp inRoot
    exact notMem_line (rootWritable setting isSetting) inLine
  · obtain ⟨settings, isTable, inTable⟩ := List.mem_flatMap.mp inTables
    rcases List.mem_append.mp inTable with inHeader | inLines
    · simp only [headerLine, List.mem_cons, List.mem_append, List.not_mem_nil, or_false] at inHeader
      rcases inHeader with never | never | inName | never | never | never
      · exact absurd never (by decide)
      · exact absurd never (by decide)
      · exact absurd (bare.2 _ inName) (by decide)
      · exact absurd never (by decide)
      · exact absurd never (by decide)
      · exact absurd never (by decide)
    · obtain ⟨setting, isSetting, inLine⟩ := List.mem_flatMap.mp inLines
      exact notMem_line (writable settings isTable setting isSetting) inLine

include rooted rootWritable in
/-- The first character of a document belongs to a name. -/
theorem skipByteOrderMark_document :
    skipByteOrderMark (document root name tables) = document root name tables := by
  obtain ⟨setting, others, rfl⟩ := List.exists_cons_of_ne_nil rooted
  obtain ⟨first, back, isPart, isLine⟩ :=
    Setting.line_cons (rootWritable setting List.mem_cons_self)
      (others.flatMap Setting.line ++ tables.flatMap (tableLines name))
  rw [document, List.flatMap_cons, List.append_assoc, isLine]
  unfold skipByteOrderMark
  split
  next same =>
    cases same
    exact absurd isPart (by decide)
  next => rfl

include rooted rootWritable bare writable in
/-- A document is read as its settings and the array of its tables. -/
theorem read?_document :
    read? (String.ofList (document root name tables)) =
      some (root.map Setting.member ++
        tableMembers name (tables.map (List.map Setting.member))) := by
  have unmarked : skipByteOrderMark (document root name tables) = document root name tables :=
    skipByteOrderMark_document rooted rootWritable
  have folded := foldBreaks_of_notMem (notMem_document rootWritable bare writable)
  have parted : Parted (document root name tables) ⟨[], false, []⟩
      (⟨[], false, root.map Setting.member⟩ ::
        (tables.map (List.map Setting.member)).map (repeated name)) := by
    rw [List.map_map]
    exact parted_lines rootWritable (parted_tables bare writable)
  simp only [read?, String.toList_ofList, unmarked, folded, parted _ (Nat.lt_succ_self _),
    membersOf_tables, Option.bind_eq_bind, Option.bind_some]
  rfl

end Document

end ContactPlan.Toml
