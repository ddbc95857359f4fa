import ContactPlan.Text.Hex

/-
This file reads the quoted texts of TOML documents.
Quotation marks allow escapes and apostrophes do not, and three of either allow line breaks.
-/

namespace ContactPlan.Toml

/-- Blanks and tabs may stand between the parts of a line. -/
def isBlank (character : Char) : Bool := character == ' ' || character == '\t'

def skipBlanks (text : List Char) : List Char := text.dropWhile isBlank

namespace Quoted

/-- Of the control characters only the tab stands for itself. -/
def isPlain (character : Char) : Bool :=
  character == '\t' || (' ' ≤ character && character ≠ '\x7f')

def hexValue? (digits : List Char) : Option Nat :=
  digits.foldlM (fun value digit => (Hex.digitValue? digit).map (16 * value + ·)) 0

/-- A character is named by all the digits of its code point. -/
def codePoint? (width : Nat) (text : List Char) : Option (Char × List Char) :=
  match hexValue? (text.take width) with
  | some code =>
      if (text.take width).length = width ∧ code.isValidChar then
        some (Char.ofNat code, text.drop width)
      else none
  | none => none

/-- The backslash in front has been taken. -/
def escape? : List Char → Option (Char × List Char)
  | '"' :: rest => some ('"', rest)
  | '\\' :: rest => some ('\\', rest)
  | 'b' :: rest => some ('\x08', rest)
  | 'f' :: rest => some ('\x0c', rest)
  | 'n' :: rest => some ('\n', rest)
  | 'r' :: rest => some ('\r', rest)
  | 't' :: rest => some ('\t', rest)
  | 'u' :: rest => codePoint? 4 rest
  | 'U' :: rest => codePoint? 8 rest
  | _ => none

/-- A backslash at the end of a line skips to the next character that is not blank. -/
def continuation? (text : List Char) : Option (List Char) :=
  match skipBlanks text with
  | '\n' :: _ => some (text.dropWhile fun character => isBlank character || character == '\n')
  | _ => none

/-- The text ends at the next mark on its line. -/
def line : Nat → Char → List Char → Option (List Char × List Char)
  | 0, _, _ => none
  | _, _, [] => none
  | fuel + 1, mark, character :: rest =>
      if character = mark then some ([], rest)
      else if character = '\\' ∧ mark = '"' then do
        let (character, rest) ← escape? rest
        let (value, rest) ← line fuel mark rest
        return (character :: value, rest)
      else if isPlain character then do
        let (value, rest) ← line fuel mark rest
        return (character :: value, rest)
      else none

/-- Three marks end the text, and up to two more before them belong to it. -/
def lines : Nat → Char → List Char → Option (List Char × List Char)
  | 0, _, _ => none
  | _, _, [] => none
  | fuel + 1, mark, character :: rest =>
      if character = mark then
        let marks := ((character :: rest).takeWhile (· = mark)).length
        if 3 ≤ marks then
          let inner := min (marks - 3) 2
          some (List.replicate inner mark, (character :: rest).drop (3 + inner))
        else do
          let (value, rest) ← lines fuel mark rest
          return (mark :: value, rest)
      else if character = '\\' ∧ mark = '"' then
        match continuation? rest with
        | some rest => lines fuel mark rest
        | none => do
            let (character, rest) ← escape? rest
            let (value, rest) ← lines fuel mark rest
            return (character :: value, rest)
      else if isPlain character || character == '\n' then do
        let (value, rest) ← lines fuel mark rest
        return (character :: value, rest)
      else none

/-- A line break right behind the three marks is left out. -/
def skipFirstBreak : List Char → List Char
  | '\n' :: rest => rest
  | text => text

/-- A quoted text is told apart by whether it may have line breaks. -/
structure Found where
  value : String
  multiline : Bool
  rest : List Char

def Found.of (multiline : Bool) (result : List Char × List Char) : Found :=
  ⟨String.ofList result.1, multiline, result.2⟩

/-- The first mark has been taken, and two more marks allow line breaks. -/
def after? (mark : Char) (text : List Char) : Option Found :=
  match text with
  | first :: second :: rest =>
      if first = mark ∧ second = mark then
        (lines text.length mark (skipFirstBreak rest)).map (Found.of true)
      else (line text.length mark text).map (Found.of false)
  | text => (line text.length mark text).map (Found.of false)

/-- A quoted text starts with a quotation mark or an apostrophe. -/
def read? : List Char → Option Found
  | '"' :: rest => after? '"' rest
  | '\x27' :: rest => after? '\x27' rest
  | _ => none

end Quoted

end ContactPlan.Toml
