import ContactPlan.Store.Basic

namespace ContactPlan

/-- What a user can ask for, with the files that are named for it. -/
inductive Command where
  | run (settings : String)
  | ingest (settings : String)
  | view (store : String) (asListing : Bool)
  | archive (store : String) (output : Option String)
  | decode (file : String) (asListing : Bool)
  deriving DecidableEq

/-- Arguments that cannot be understood are refused. -/
inductive Request where
  | perform (verbosity : Nat) (command : Command)
  | help
  | refused
  deriving DecidableEq

namespace Request

/-- The first word that is not an option is the verb. -/
inductive Verb where
  | run
  | ingest
  | view
  | archive
  | decode
  deriving DecidableEq

/-- Some verbs have a short form. -/
def verb? (word : String) : Option Verb :=
  match word with
  | "run" => some .run
  | "ingest" => some .ingest
  | "i" => some .ingest
  | "show" => some .view
  | "s" => some .view
  | "export" => some .archive
  | "decode" => some .decode
  | _ => none

def Verb.takesListing : Verb → Bool
  | .view => true
  | .decode => true
  | _ => false

def Verb.takesOutput : Verb → Bool
  | .archive => true
  | _ => false

/-- What the arguments have said so far. -/
structure Draft where
  verbosity : Nat
  operands : List String
  listings : Nat
  outputs : List String

/-- Reading ends early when help is asked for or an argument is not known. -/
inductive Reading where
  | finished (draft : Draft)
  | help
  | refused

/-- A single hyphen is an operand. -/
def isOption (argument : String) : Bool :=
  argument.startsWith "-" && argument ≠ "-"

/-- The value of an option is joined to it or is the next argument. -/
inductive Piece where
  | verbose
  | listing
  | output (value : Option String)
  | help
  | unknown

/-- The value of a long option is parted from its name by an equals sign. -/
def longPiece (verb : Verb) (argument : String) : Piece :=
  match Fields.split '=' (argument.toList.drop 2) with
  | [name] =>
      if name = "help".toList then .help
      else if name = "json".toList ∧ verb.takesListing then .listing
      else if name = "output".toList ∧ verb.takesOutput then .output none
      else .unknown
  | name :: values =>
      if name = "output".toList ∧ verb.takesOutput then
        .output (some (String.ofList (Fields.join '=' values)))
      else .unknown
  | [] => .unknown

/-- Short options may share one hyphen, and the one with a value is the last of them. -/
def shortPieces (verb : Verb) : List Char → List Piece
  | [] => []
  | 'v' :: rest => .verbose :: shortPieces verb rest
  | 'h' :: _ => [.help]
  | 'o' :: rest =>
      if verb.takesOutput then
        match rest with
        | [] => [.output none]
        | '=' :: value => [.output (some (String.ofList value))]
        | value => [.output (some (String.ofList value))]
      else [.unknown]
  | _ => [.unknown]

def pieces (verb : Verb) (argument : String) : List Piece :=
  if argument.startsWith "--" then [longPiece verb argument]
  else shortPieces verb (argument.toList.drop 1)

mutual

/-- No verb takes more than one operand, and two hyphens end the options. -/
def read (verb : Verb) (draft : Draft) : List String → Reading
  | [] => .finished draft
  | argument :: rest =>
      if argument = "--" then readOperands draft rest
      else if isOption argument then readPieces verb draft (pieces verb argument) rest
      else if draft.operands = [] then read verb { draft with operands := [argument] } rest
      else .refused
  termination_by arguments => (arguments.length, 0)

/-- An option without its value takes the next argument for it. -/
def readPieces (verb : Verb) (draft : Draft) (options : List Piece) (arguments : List String) :
    Reading :=
  match options with
  | [] => read verb draft arguments
  | .verbose :: options =>
      readPieces verb { draft with verbosity := draft.verbosity + 1 } options arguments
  | .listing :: options =>
      readPieces verb { draft with listings := draft.listings + 1 } options arguments
  | .output (some value) :: options =>
      readPieces verb { draft with outputs := value :: draft.outputs } options arguments
  | .output none :: _ =>
      match arguments with
      | [] => .refused
      | value :: arguments =>
          if isOption value then .refused
          else read verb { draft with outputs := value :: draft.outputs } arguments
  | .help :: _ => .help
  | .unknown :: _ => .refused
  termination_by (arguments.length, options.length + 1)

/-- Behind two hyphens everything is an operand. -/
def readOperands (draft : Draft) : List String → Reading
  | [] => .finished draft
  | argument :: rest =>
      if draft.operands = [] then readOperands { draft with operands := [argument] } rest
      else .refused
  termination_by arguments => (arguments.length, 0)

end

/-- An operand with a default may be missing, and an option may not be given twice. -/
def command? (verb : Verb) (draft : Draft) : Option Command :=
  if 1 < draft.listings ∨ 1 < draft.outputs.length then none
  else
    match verb, draft.operands.head? with
    | .run, some settings => some (.run settings)
    | .ingest, some settings => some (.ingest settings)
    | .decode, some file => some (.decode file (draft.listings = 1))
    | .view, store => some (.view (store.getD Store.defaultPath) (draft.listings = 1))
    | .archive, store => some (.archive (store.getD Store.defaultPath) draft.outputs.head?)
    | _, none => none

def ofReading (verb : Verb) : Reading → Request
  | .help => .help
  | .refused => .refused
  | .finished draft =>
      match command? verb draft with
      | some command => .perform draft.verbosity command
      | none => .refused

/-- Help may be asked for a verb that there is. -/
def ofHelp : List String → Request
  | [] => .help
  | [word] => if word = "help" ∨ (verb? word).isSome then .help else .refused
  | _ => .refused

/-- Only the options that hold for every verb may stand before the verb. -/
def countVerbose : List Char → Option (Option Nat)
  | [] => some (some 0)
  | 'v' :: rest => (countVerbose rest).map fun count => count.map (· + 1)
  | 'h' :: _ => some none
  | _ => none

/-- The options in front of the verb are read first. -/
def ofArguments (verbosity : Nat) : List String → Request
  | [] => .refused
  | argument :: rest =>
      if argument = "--help" then .help
      else if isOption argument then
        match countVerbose (argument.toList.drop 1) with
        | none => .refused
        | some none => .help
        | some (some count) => ofArguments (verbosity + count) rest
      else if argument = "help" then ofHelp rest
      else
        match verb? argument with
        | some verb => ofReading verb (read verb ⟨verbosity, [], 0, []⟩ rest)
        | none => .refused

end Request

end ContactPlan
