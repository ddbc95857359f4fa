import ContactPlan.Command.Arguments
import ContactPlan.Contact.Sheet
import ContactPlan.Server.Daemon

namespace ContactPlan

/-- A command that has failed prints a complaint and leaves the disk as it was. -/
structure Outcome where
  code : Nat
  output : String
  complaint : String
  disk : Disk

def Outcome.success (output : String) (disk : Disk) : Outcome := ⟨0, output ++ "\n", "", disk⟩

def Outcome.failure (message : String) (disk : Disk) : Outcome := ⟨1, "", message ++ "\n", disk⟩

/-- Arguments that are refused have a code of their own. -/
def Outcome.refusal (disk : Disk) : Outcome := ⟨2, "", "", disk⟩

namespace Command

/-- A sheet ends its last line itself. -/
def contactLines (contacts : List Contact) (asListing : Bool) : String :=
  if asListing then Contact.listing contacts ++ "\n"
  else if contacts.isEmpty then "No contacts\n"
  else Sheet.text contacts

/-- The contacts that were new are listed, if there are any. -/
def newLines (new : ContactSet) : String :=
  if new.isEmpty then "" else contactLines new.members false

def ingestText (settings : Settings) (new : ContactSet) : String :=
  "Ingested " ++ Decimal.write settings.contacts.size ++ " contacts into " ++
    settings.storePath ++ " (" ++ Decimal.write new.size ++ " new)"

/-- The contacts of a settings file are merged into the store that it names. -/
def performIngest (disk : Disk) (path : String) : Outcome :=
  match Settings.load disk path with
  | .error failure => .failure failure.message disk
  | .ok settings =>
      match Store.ingest disk settings.storePath settings.contacts with
      | .error fault => .failure (Failure.storage fault).message disk
      | .ok (new, disk) => ⟨0, ingestText settings new ++ "\n" ++ newLines new, "", disk⟩

/-- A missing store is no failure. -/
def performView (disk : Disk) (store : String) (asListing : Bool) : Outcome :=
  match Store.load disk store with
  | .error fault => .failure (Failure.storage fault).message disk
  | .ok none => .success ("No contact store at " ++ store) disk
  | .ok (some stored) => ⟨0, contactLines stored.members asListing, "", disk⟩

def archiveText (stored : ContactSet) (bytes : List UInt8) (path : String) : String :=
  "Exported " ++ Decimal.write stored.size ++ " contacts (" ++ Decimal.write bytes.length ++
    " bytes) to " ++ path

/-- An archive is printed unless there is a file for it. -/
def performArchive (disk : Disk) (store : String) (output : Option String) : Outcome :=
  match Store.loadOrEmpty disk store with
  | .error fault => .failure (Failure.storage fault).message disk
  | .ok stored =>
      match Archive.encode stored, output with
      | .error fault, _ => .failure fault.message disk
      | .ok bytes, none => .success (Hex.write bytes) disk
      | .ok bytes, some path =>
          match disk.write path bytes with
          | .error fault => .failure fault.message disk
          | .ok disk => .success (archiveText stored bytes path) disk

/-- An archive is shown in the same way as a store. -/
def performDecode (disk : Disk) (file : String) (asListing : Bool) : Outcome :=
  match disk.read file with
  | .error fault => .failure fault.message disk
  | .ok bytes =>
      match Archive.decode bytes with
      | .error fault => .failure fault.message disk
      | .ok contacts => ⟨0, contactLines contacts asListing, "", disk⟩

/-- A daemon that has started prints nothing and goes on until it is stopped. -/
def performRun (disk : Disk) (path : String) (now : Instant) : Outcome :=
  match (Daemon.start disk path now).2 with
  | .error failure => .failure failure.message disk
  | .ok daemon => ⟨0, "", "", daemon.disk⟩

def perform (command : Command) (disk : Disk) (now : Instant) : Outcome :=
  match command with
  | .run path => performRun disk path now
  | .ingest path => performIngest disk path
  | .view store asListing => performView disk store asListing
  | .archive store output => performArchive disk store output
  | .decode file asListing => performDecode disk file asListing

end Command

/-- Help is no failure. -/
def Request.outcome (request : Request) (disk : Disk) (now : Instant) : Outcome :=
  match request with
  | .perform _ command => command.perform disk now
  | .help => ⟨0, "", "", disk⟩
  | .refused => .refusal disk

end ContactPlan
