import ContactPlan.Text.Fields

/-
This file holds files and directories as values.
A path that does not start at the root starts in the working directory, which always exists.
-/

namespace ContactPlan

namespace Disk

/-- A location names the directories from the root and the node itself. -/
abbrev Location := List String

/-- A file is its bytes, and a directory has no content of its own. -/
inductive Node where
  | file (bytes : List UInt8)
  | directory
  deriving DecidableEq

/-- The first obstacle on a path is reported.
Access rights and full devices are left out. A program sees them as one more fault of reading or
writing, which it passes on like the others, so that here every file that can be read can also be
overwritten. -/
inductive Fault where
  | notFound
  | notADirectory
  | isADirectory
  | nameTooLong
  | nullInPath
  | notText
  deriving DecidableEq

def Fault.message : Fault → String
  | .notFound => "No such file or directory (os error 2)"
  | .notADirectory => "Not a directory (os error 20)"
  | .isADirectory => "Is a directory (os error 21)"
  | .nameTooLong => "File name too long (os error 36)"
  | .nullInPath => "file name contained an unexpected NUL byte"
  | .notText => "stream did not contain valid UTF-8"

end Disk

/-- The nodes off the way to the working directory are listed by location, the latest first. -/
structure Disk where
  working : Disk.Location
  nodes : List (Disk.Location × Disk.Node)

namespace Disk

def empty (working : Location) : Disk := ⟨working, []⟩

/-- The directories on the way to the working directory are always there. -/
def node? (disk : Disk) (location : Location) : Option Node :=
  if location.isPrefixOf disk.working then some .directory else disk.nodes.lookup location

/-- A node replaces the one that was there. -/
def put (disk : Disk) (location : Location) (node : Node) : Disk :=
  { disk with nodes := (location, node) :: disk.nodes.filter fun entry => entry.1 ≠ location }

def delete (disk : Disk) (location : Location) : Disk :=
  { disk with nodes := disk.nodes.filter fun entry => entry.1 ≠ location }

def isRegularFile (disk : Disk) (location : Location) : Bool :=
  match disk.node? location with
  | some (.file _) => true
  | _ => false

/-- A component leads on from the directory here. -/
def descend (here : Location) (component : String) : Location :=
  if component = "" ∨ component = "." then here
  else if component = ".." then here.dropLast
  else here ++ [component]

/-- A name of more bytes than this leads nowhere. -/
def nameLimit : Nat := 255

/-- Every component but the last has to lead to a directory, and no name may be too long. -/
def follow (disk : Disk) (here : Location) : List String → Except Fault Location
  | [] => .ok here
  | component :: rest =>
      match disk.node? here with
      | some .directory =>
          if nameLimit < component.utf8ByteSize then .error .nameTooLong
          else disk.follow (descend here component) rest
      | some (.file _) => .error .notADirectory
      | none => .error .notFound

def components (path : String) : List String :=
  (Fields.split '/' path.toList).map String.ofList

/-- A slash at the start leads to the root. -/
def origin (disk : Disk) (path : String) : Location :=
  if path.toList.head? = some '/' then [] else disk.working

/-- A path has fewer bytes than this. -/
def pathLimit : Nat := 4096

/-- A path that is empty, too long or holds a null is not followed at all. -/
def refusal? (path : String) : Option Fault :=
  if path.toList.contains '\x00' then some .nullInPath
  else if pathLimit ≤ path.utf8ByteSize then some .nameTooLong
  else if path = "" then some .notFound
  else none

/-- A path is followed from its origin unless it is refused. -/
def locate (disk : Disk) (path : String) : Except Fault Location :=
  match refusal? path with
  | some fault => .error fault
  | none => disk.follow (disk.origin path) (components path)

/-- Only files can be read. -/
def read (disk : Disk) (path : String) : Except Fault (List UInt8) :=
  match disk.locate path with
  | .error fault => .error fault
  | .ok location =>
      match disk.node? location with
      | some (.file bytes) => .ok bytes
      | some .directory => .error .isADirectory
      | none => .error .notFound

def readText (disk : Disk) (path : String) : Except Fault String :=
  match disk.read path with
  | .error fault => .error fault
  | .ok bytes =>
      match String.fromUTF8? ⟨bytes.toArray⟩ with
      | some text => .ok text
      | none => .error .notText

/-- Slashes at the end ask for a directory. -/
def asksForDirectory (path : String) : Bool := path.toList.getLast? = some '/'

/-- The components up to the slash before the last name. -/
def leading (path : String) : List String :=
  ((components path).reverse.dropWhile (· = "")).tail.reverse ++ [""]

/-- A file cannot be created where a directory is asked for, whether there is one or not. -/
def locateNew (disk : Disk) (path : String) : Except Fault Location :=
  match refusal? path with
  | some fault => .error fault
  | none =>
      if asksForDirectory path then
        (disk.follow (disk.origin path) (leading path)).bind fun _ => .error .isADirectory
      else disk.follow (disk.origin path) (components path)

/-- A file is created or overwritten whole. -/
def write (disk : Disk) (path : String) (bytes : List UInt8) : Except Fault Disk :=
  match disk.locateNew path with
  | .error fault => .error fault
  | .ok location =>
      if disk.node? location = some .directory then .error .isADirectory
      else .ok (disk.put location (.file bytes))

/-- The missing directories of a path are made until a file or a long name is in the way. -/
def makeAlong (disk : Disk) (here : Location) : List String → Disk
  | [] => disk
  | component :: rest =>
      let next := descend here component
      match disk.node? next with
      | none =>
          if nameLimit < component.utf8ByteSize then disk
          else (disk.put next .directory).makeAlong next rest
      | some .directory => disk.makeAlong next rest
      | some (.file _) => disk

def makeDirectory (disk : Disk) (path : String) : Disk :=
  match refusal? path with
  | some _ => disk
  | none => disk.makeAlong (disk.origin path) (components path)

def remove (disk : Disk) (path : String) : Disk :=
  match disk.locate path with
  | .error _ => disk
  | .ok location => if disk.isRegularFile location then disk.delete location else disk

/-- The nodes in the working directory and below are listed with their paths from there. -/
def listing (disk : Disk) : List (String × Node) :=
  disk.nodes.filterMap fun (location, node) =>
    if disk.working.isPrefixOf location then
      some ("/".intercalate (location.drop disk.working.length), node)
    else none

end Disk

end ContactPlan
