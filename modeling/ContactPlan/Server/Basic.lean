import ContactPlan.Agenda.Run
import ContactPlan.Failure

/-
This file holds servers, which keep a routing table up to date while contacts come and go.
Every operation is given the disk that the store is on and the time of day.
-/

namespace ContactPlan

/-- A server has one router, whose table follows the contacts of its agenda. -/
structure Server where
  settings : Settings
  table : Table
  agenda : Agenda

/-- Nothing is scheduled at first. -/
def Server.start (settings : Settings) : Server := ⟨settings, settings.table, Agenda.empty⟩

/-- What the registration reports is not needed here. -/
def Server.schedule (server : Server) (contacts : ContactSet) (now : Instant) : Server :=
  { server with agenda := (server.agenda.register contacts now).2 }

/-- The contacts that the store did not have are scheduled, and a failure changes nothing. -/
def Server.ingest (server : Server) (disk : Disk) (incoming : ContactSet) (now : Instant) :
    Except Failure ContactSet × Server × Disk :=
  match Store.ingest disk server.settings.storePath incoming with
  | .error fault => (.error (.storage fault), server, disk)
  | .ok (new, disk) => (.ok new, server.schedule new now, disk)

/-- A contact is upcoming until its end has passed. -/
def ContactSet.upcoming (set : ContactSet) (now : Instant) : ContactSet :=
  ⟨set.members.filter fun contact => now < contact.stop,
    List.Pairwise.sublist List.filter_sublist set.ascending⟩

/-- The stored contacts that have not ended are scheduled, and nothing is if there is no store. -/
def Server.resume (server : Server) (disk : Disk) (now : Instant) :
    Except Failure (Option Nat) × Server :=
  match Store.load disk server.settings.storePath with
  | .error fault => (.error (.storage fault), server)
  | .ok none => (.ok none, server)
  | .ok (some stored) =>
      let (reminders, agenda) := server.agenda.register (stored.upcoming now) now
      (.ok (some (reminders.length / 2)), { server with agenda })

/-- An archive is written as well if the settings name a file for it. -/
def Server.deliver (server : Server) (disk : Disk) (bytes : List UInt8) : Except Failure Disk :=
  match server.settings.exportPath with
  | none => .ok disk
  | some path =>
      match disk.write path bytes with
      | .error fault => .error (.storage fault)
      | .ok disk => .ok disk

/-- All stored contacts are archived, and a failure leaves the disk as it was. -/
def Server.archive (server : Server) (disk : Disk) : Except Failure (List UInt8) × Disk :=
  match Store.loadOrEmpty disk server.settings.storePath with
  | .error fault => (.error (.storage fault), disk)
  | .ok stored =>
      match Archive.encode stored with
      | .error fault => (.error (.archive fault), disk)
      | .ok bytes =>
          match server.deliver disk bytes with
          | .error failure => (.error failure, disk)
          | .ok disk => (.ok bytes, disk)

/-- A handled event tells how many routes it changed. -/
structure Handled where
  event : Event
  changes : Nat

/-- The agenda has dropped the event already, and only the table changes. -/
def Server.handle (server : Server) (event : Event) : Handled × Server :=
  let (table, changes) := server.settings.router.handle event server.table
  (⟨event, changes⟩, { server with table })

/-- Every event sees the table that the last one has left. -/
def Server.handleAll (server : Server) : List Event → List Handled × Server
  | [] => ([], server)
  | event :: events =>
      let (handled, server) := server.handle event
      let (rest, server) := server.handleAll events
      (handled :: rest, server)

/-- The clock moves on to the next event. -/
def Server.next? (server : Server) : Option (Handled × Server) :=
  server.agenda.next?.map fun (event, agenda) => { server with agenda }.handle event

/-- Everything that comes due in the meantime is handled in its order. -/
def Server.elapse (server : Server) (milliseconds : Nat) : List Handled × Server :=
  let (occurrences, agenda) := server.agenda.run milliseconds
  { server with agenda }.handleAll (occurrences.map Occurrence.event)

end ContactPlan
