import ContactPlan.Toml.Element

namespace ContactPlan.Toml

/-- The header of a section tells where its table is nested.
A repeated header adds one more table to an array. -/
structure Section where
  path : List String
  repeated : Bool
  members : Members

/-- The brackets of a header touch each other. -/
def header? (text : List Char) : Option (Section × List Char) := do
  let (repeated, text) := match text with
    | '[' :: text => (true, text)
    | text => (false, text)
  let (path, rest) ← keyPath? (text.length + 1) (skipBlanks text)
  match repeated, rest with
  | false, ']' :: rest => return (⟨path, false, []⟩, ← endLine? rest)
  | true, ']' :: ']' :: rest => return (⟨path, true, []⟩, ← endLine? rest)
  | _, _ => none

/-- Every pair belongs to the last header before it. -/
def sections : Nat → Section → List Char → Option (List Section)
  | 0, _, _ => none
  | fuel + 1, current, text => do
      match ← skipLines (text.length + 1) text with
      | [] => return [current]
      | '[' :: rest =>
          let (next, rest) ← header? rest
          return current :: (← sections fuel next rest)
      | text =>
          let (members, rest) ← pair? current.members text
          sections fuel { current with members } rest

/-- A section behind the first may not define the table of the shortest one before it again. -/
def shortest? : Option (List String) → List String → Option (List String)
  | none, path => some path
  | some parent, path =>
      if path = parent then none
      else some (if path.length < parent.length then path else parent)

/-- A section is below a name when its header begins with it. -/
def Section.isBelow (name : String) (current : Section) : Bool := current.path.head? = some name

def Section.descend (current : Section) : Section := { current with path := current.path.tail }

/-- A header in double brackets starts a new element of the array. -/
def Section.startsElement (current : Section) : Bool := current.path.isEmpty && current.repeated

mutual

/-- Sections whose headers start alike make one member. -/
def membersOf : Nat → Option (List String) → List Section → Option Members
  | 0, _, _ => none
  | _, _, [] => some []
  | fuel + 1, parent, current :: rest => do
      let parent ← shortest? parent current.path
      match current.path with
      | [] =>
          if current.repeated then none
          return current.members ++ (← membersOf fuel (some parent) rest)
      | name :: names =>
          let inner := (current :: rest).filter (Section.isBelow name)
          let outer := rest.filter fun other => !other.isBelow name
          let value ← tableOf fuel (names.isEmpty && current.repeated) (inner.map Section.descend)
          return (name, value) :: (← membersOf fuel (some parent) outer)

def tableOf : Nat → Bool → List Section → Option Value
  | 0, _, _ => none
  | fuel + 1, repeated, sections =>
      if repeated then (elementsOf fuel sections).map .array
      else (membersOf fuel none sections).map (.table false)

/-- An element of an array of tables goes on to the next header of the array. -/
def elementsOf : Nat → List Section → Option (List Value)
  | 0, _ => none
  | _, [] => some []
  | fuel + 1, current :: rest => do
      let inner := rest.takeWhile fun other => !other.startsElement
      let members ← membersOf fuel (some []) inner
      return .table false (current.members ++ members) ::
        (← elementsOf fuel (rest.dropWhile fun other => !other.startsElement))

end

/-- Sections and their headers are used up one after the other. -/
def sectionFuel (sections : List Section) : Nat :=
  sections.foldr (fun current fuel => 2 * current.path.length + 2 + fuel) 1

/-- A carriage return before a line feed does not count. -/
def foldBreaks : List Char → List Char
  | '\x0d' :: '\n' :: rest => '\n' :: foldBreaks rest
  | character :: rest => character :: foldBreaks rest
  | [] => []

/-- A byte order mark in front of a document does not count. -/
def skipByteOrderMark : List Char → List Char
  | '\ufeff' :: rest => rest
  | text => text

/-- The pairs before the first header belong to the document itself. -/
def read? (text : String) : Option Members := do
  let text := foldBreaks (skipByteOrderMark text.toList)
  match ← sections (text.length + 1) ⟨[], false, []⟩ text with
  | [] => none
  | root :: rest => return root.members ++ (← membersOf (sectionFuel rest) (some []) rest)

end ContactPlan.Toml
