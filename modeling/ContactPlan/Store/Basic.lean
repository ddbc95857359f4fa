import ContactPlan.Disk
import ContactPlan.Store.Record

namespace ContactPlan

namespace Store

/-- The store that is used when none is named. -/
def defaultPath : String := "sces.bin"

/-- Of several records of one contact the last counts. -/
def contents (bytes : List UInt8) : ContactSet := ContactSet.ofList (Record.readAll bytes)

/-- Only valid contacts are written, in canonical order. -/
def image (set : ContactSet) : List UInt8 := Record.writeAll set.valid.members

/-- There is no store before the first save. -/
def load (disk : Disk) (path : String) : Except Disk.Fault (Option ContactSet) :=
  match disk.read path with
  | .ok bytes => .ok (some (contents bytes))
  | .error .notFound => .ok none
  | .error fault => .error fault

/-- A missing store has no contacts. -/
def loadOrEmpty (disk : Disk) (path : String) : Except Disk.Fault ContactSet :=
  (load disk path).map fun stored => stored.getD ContactSet.empty

/-- The records that were written are counted. -/
def save (disk : Disk) (path : String) (set : ContactSet) : Except Disk.Fault (Nat × Disk) :=
  (disk.write path (image set)).map fun disk => (set.valid.size, disk)

/-- The valid contacts are merged into the store, and those that were not there are returned. -/
def ingest (disk : Disk) (path : String) (incoming : ContactSet) :
    Except Disk.Fault (ContactSet × Disk) :=
  match loadOrEmpty disk path with
  | .error fault => .error fault
  | .ok stored =>
      match save disk path (stored.union incoming.valid) with
      | .error fault => .error fault
      | .ok (_, disk) => .ok (incoming.valid.difference stored, disk)

end Store

end ContactPlan
