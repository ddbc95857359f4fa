import ContactPlan.Toml.Numeral
import ContactPlan.Toml.Quoted

namespace ContactPlan.Toml

/-- A key is a bare word or a quoted text on one line. -/
def key? (text : List Char) : Option (String × List Char) :=
  match Quoted.read? text with
  | some quoted => if quoted.multiline then none else some (quoted.value, quoted.rest)
  | none => (word? text).map fun (word, rest) => (String.ofList word, rest)

/-- Dots part the names of a key, and blanks may stand around them. -/
def keyPath? : Nat → List Char → Option (List String × List Char)
  | 0, _ => none
  | fuel + 1, text => do
      let (name, rest) ← key? text
      match skipBlanks rest with
      | '.' :: rest =>
          let (names, rest) ← keyPath? fuel (skipBlanks rest)
          return (name :: names, rest)
      | rest => return ([name], rest)

/-- A comment has no control characters but tabs. -/
def isCommentCharacter (character : Char) : Bool := character == '\t' || ' ' ≤ character

/-- A line ends after blanks and a comment, which may both be missing. -/
def endLine? (text : List Char) : Option (List Char) :=
  let rest := match skipBlanks text with
    | '#' :: comment => comment.dropWhile isCommentCharacter
    | rest => rest
  match rest with
  | [] => some []
  | '\n' :: rest => some rest
  | _ => none

/-- Lines without content are skipped. -/
def skipLines : Nat → List Char → Option (List Char)
  | 0, _ => none
  | fuel + 1, text =>
      match skipBlanks text with
      | [] => some []
      | '#' :: _ => (endLine? text).bind (skipLines fuel)
      | '\n' :: rest => skipLines fuel rest
      | rest => some rest

/-- An equals sign parts a key from its value. -/
def assigned? (text : List Char) : Option (List Char) :=
  match skipBlanks text with
  | '=' :: rest => some (skipBlanks rest)
  | _ => none

/-- Two words are truth values, and any other is a number or a moment. -/
def readWord? (text : List Char) : Option (Value × List Char) := do
  let (word, rest) ← word? text
  if word = "true".toList then return (.boolean true, rest)
  else if word = "false".toList then return (.boolean false, rest)
  else readNumber? word rest

def readText? (text : List Char) : Option (Value × List Char) :=
  (Quoted.read? text).map fun quoted => (.text quoted.value, quoted.rest)

mutual

/-- The first character tells what kind of value follows. -/
def value? : Nat → List Char → Option (Value × List Char)
  | 0, _ => none
  | fuel + 1, text =>
      match text with
      | '"' :: _ => readText? text
      | '\x27' :: _ => readText? text
      | '+' :: rest => (word? rest).bind fun (word, rest) => Numeral.read? word rest
      | '[' :: rest => (elements? fuel rest).map fun (values, rest) => (.array values, rest)
      | '{' :: rest =>
          match skipBlanks rest with
          | '}' :: rest => some (.table false [], rest)
          | rest => (pairs? fuel [] rest).map fun (members, rest) => (.table false members, rest)
      | _ => readWord? text

/-- Line breaks may stand around the elements of an array, and a comma behind the last. -/
def elements? : Nat → List Char → Option (List Value × List Char)
  | 0, _ => none
  | fuel + 1, text => do
      match ← skipLines (text.length + 1) text with
      | ']' :: rest => return ([], rest)
      | text =>
          let (value, rest) ← value? fuel text
          match ← skipLines (rest.length + 1) rest with
          | ']' :: rest => return ([value], rest)
          | ',' :: rest =>
              let (values, rest) ← elements? fuel rest
              return (value :: values, rest)
          | _ => none

/-- The pairs of an inline table stand on one line. -/
def pairs? : Nat → Members → List Char → Option (Members × List Char)
  | 0, _, _ => none
  | fuel + 1, members, text => do
      let (names, rest) ← keyPath? (text.length + 1) text
      let (value, rest) ← value? fuel (← assigned? rest)
      let members ← members.add? value names
      match skipBlanks rest with
      | '}' :: rest => return (members, rest)
      | ',' :: rest => pairs? fuel members (skipBlanks rest)
      | _ => none

end

/-- A pair ends its line. -/
def pair? (members : Members) (text : List Char) : Option (Members × List Char) := do
  let (names, rest) ← keyPath? (text.length + 1) text
  let (value, rest) ← value? (text.length + 1) (← assigned? rest)
  return (← members.add? value names, ← endLine? rest)

end ContactPlan.Toml
