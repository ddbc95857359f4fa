import ContactPlan.Proofs.Agenda.Tracking
import ContactPlan.Proofs.Server.Passage
import ContactPlan.Proofs.Server.Run
import ContactPlan.Proofs.Store.Ingest

/-
This file follows a server together with the file of its store.
The time of day advances with the clock of the timers, and nobody else writes the file.
-/

namespace ContactPlan

/-- Every contact of a set that has not ended is tracked. -/
def Agenda.Covers (origin : Nat) (set : ContactSet) (agenda : Agenda) : Prop :=
  ∀ contact : Contact, set.contains contact → contact.isValid →
    origin + agenda.clock < contact.stop.toNat → agenda.tracks contact

namespace Agenda

/-- Nothing has to be tracked for an empty store. -/
theorem covers_empty (origin : Nat) (agenda : Agenda) : agenda.Covers origin ContactSet.empty := by
  intro contact present
  cases present

section Covering

variable {origin : Nat} {set : ContactSet} {agenda : Agenda} (covers : agenda.Covers origin set)
include covers

/-- When time passes, less has to be tracked. -/
theorem Covers.advance (milliseconds : Nat) :
    (agenda.advance milliseconds).Covers origin set := by
  intro contact present isValid upcoming
  refine covers contact present isValid (Nat.lt_of_le_of_lt ?_ upcoming)
  exact Nat.add_le_add_left (Nat.le_add_right _ _) origin

/-- A contact that closes has ended, and no other contact is given up. -/
theorem Covers.fired {next : Agenda} {timer : Timer} {outcome : Option Event}
    (fired : agenda.Fired timer outcome next) (patient : agenda.Patient origin)
    (member : timer ∈ agenda.timers) (due : timer.deadline ≤ agenda.clock) :
    next.Covers origin set := by
  intro contact present isValid upcoming
  rw [fired.clock_eq] at upcoming
  rcases fired.tracks (covers contact present isValid upcoming) with
    tracks | ⟨event, delivered, closes, same⟩
  · exact tracks
  · have ended := fired.stop_le patient member due delivered closes
    rw [same.stop_eq] at ended
    exact absurd upcoming (Nat.not_lt.mpr ended)

/-- Contacts that are registered take nothing off the agenda. -/
theorem Covers.registerAll (now : Instant) (contacts : List Contact) :
    (agenda.registerAll now contacts).2.Covers origin set := by
  intro contact present isValid upcoming
  rw [clock_registerAll] at upcoming
  exact tracks_registerAll.mpr (.inl (covers contact present isValid upcoming))

/-- A stored contact is covered already, and one that is new is registered. -/
theorem Covers.register_new (incoming : ContactSet) (now : Instant) :
    (agenda.register (incoming.valid.difference set) now).2.Covers origin
      (Store.merged set incoming) := by
  intro contact present isValid upcoming
  rw [Store.contains_merged, isValid, Bool.true_and, Bool.or_eq_true] at present
  by_cases isStored : set.contains contact
  · exact covers.registerAll now _ contact isStored isValid upcoming
  · have isNew : (incoming.valid.difference set).contains contact := by
      rw [Store.contains_new, isValid, present.resolve_left isStored,
        eq_false_of_ne_true isStored]
      rfl
    exact tracks_registerAll.mpr (.inr ⟨isValid, ContactSet.contains_iff.mp isNew⟩)

end Covering

/-- The upcoming contacts of a set are all that have to be registered. -/
theorem covers_register_upcoming {origin : Nat} {agenda : Agenda} {now : Instant}
    (reading : now.toNat = origin + agenda.clock) (set : ContactSet) :
    (agenda.register (set.upcoming now) now).2.Covers origin set := by
  intro contact present isValid upcoming
  obtain ⟨member, isMember, same⟩ := ContactSet.contains_iff.mp present
  change origin + (agenda.registerAll now _).2.clock < _ at upcoming
  rw [clock_registerAll, ← reading, ← same.stop_eq] at upcoming
  have isUpcoming : member ∈ (set.upcoming now).members :=
    List.mem_filter.mpr ⟨isMember, decide_eq_true (UInt64.lt_iff_toNat_lt.mpr upcoming)⟩
  exact tracks_registerAll.mpr (.inr ⟨isValid, member, isUpcoming, same⟩)

end Agenda

namespace Server

/-- The clock moves on, a due timer has to wait on, or it is an event that is handled. -/
inductive Moment (server : Server) : List Event → Server → Prop where
  | elapse (milliseconds : Nat) :
      Moment server [] { server with agenda := server.agenda.advance milliseconds }
  | wait {agenda : Agenda} (timer : Timer) (waits : timer ∈ server.agenda.timers)
      (due : timer.deadline ≤ server.agenda.clock)
      (fired : server.agenda.fire timer = (none, agenda)) : Moment server [] { server with agenda }
  | handle {agenda : Agenda} {event : Event} (timer : Timer)
      (waits : timer ∈ server.agenda.timers) (due : timer.deadline ≤ server.agenda.clock)
      (fired : server.agenda.fire timer = (some event, agenda)) (networks : List Network)
      (walked : networks.Perm server.table.networks) :
      Moment server [event]
        { server with
          agenda
          table := (server.table.apply
            (server.settings.router.changesAlong event server.table networks)).1 }

/-- A service begins with a disk and a server.
When the server resumes or ingests, the time of day is the origin and what the clock has counted.
Whatever else changes on the disk, the file of the store stays as the server has left it. -/
inductive Service (origin : Nat) (disk : Disk) (server : Server) :
    List Event → Disk → Server → Prop where
  | start : Service origin disk server [] disk server
  | resume {history : List Event} {middle : Disk} {current : Server}
      (service : Service origin disk server history middle current) (now : Instant)
      (reading : now.toNat = origin + current.agenda.clock) :
      Service origin disk server history middle (current.resume middle now).2
  | ingest {history : List Event} {middle : Disk} {current : Server}
      (service : Service origin disk server history middle current) (incoming : ContactSet)
      (now : Instant) (reading : now.toNat = origin + current.agenda.clock) :
      Service origin disk server history (current.ingest middle incoming now).2.2
        (current.ingest middle incoming now).2.1
  | elsewhere {history : List Event} {middle : Disk} {current : Server}
      (service : Service origin disk server history middle current) (other : Disk)
      (untouched : other.read current.settings.storePath =
        middle.read current.settings.storePath) :
      Service origin disk server history other current
  | moment {history events : List Event} {middle : Disk} {current next : Server}
      (service : Service origin disk server history middle current)
      (moment : Moment current events next) :
      Service origin disk server (history ++ events) middle next

/-- A service continues a run. -/
theorem Service.run {settings : Settings} {origin : Nat} {disk final : Disk}
    {server next : Server} {earlier history : List Event} (before : Run settings earlier server)
    (service : Service origin disk server history final next) :
    Run settings (earlier ++ history) next := by
  induction service with
  | start =>
      rw [List.append_nil]
      exact before
  | @resume _ middle _ _ now _ run => exact run.resume middle now
  | @ingest _ middle _ _ incoming now _ run => exact run.ingest middle incoming now
  | elsewhere _ _ _ run => exact run
  | moment _ moment run =>
      rw [← List.append_assoc]
      cases moment with
      | elapse milliseconds =>
          rw [List.append_nil]
          exact run.elapse milliseconds
      | wait timer waits due fired =>
          rw [List.append_nil]
          exact run.wait timer waits due fired
      | handle timer waits due fired networks walked =>
          exact run.handle timer waits due fired networks walked

/-- A call for the next event that waits in a service is a part of the service. -/
theorem Service.awaits {origin : Nat} {disk middle : Disk} {server current : Server}
    {history : List Event} (service : Service origin disk server history middle current)
    {event : Event} {final : Agenda} (awaits : Agenda.Awaits current.agenda event final) :
    Service origin disk server (history ++ [event]) middle
      ({ current with agenda := final }.handle event).2 := by
  generalize begins : current.agenda = agenda at awaits
  induction awaits generalizing history current with
  | elapse milliseconds _ inductionHypothesis =>
      subst begins
      have continued := inductionHypothesis (service.moment (.elapse milliseconds)) rfl
      rw [List.append_nil] at continued
      exact continued
  | wait timer waits due fired _ inductionHypothesis =>
      subst begins
      have continued := inductionHypothesis (service.moment (.wait timer waits due fired)) rfl
      rw [List.append_nil] at continued
      exact continued
  | done timer waits due fired =>
      subst begins
      exact service.moment (.handle timer waits due fired current.table.networks (.refl _))

/-- The next event of a server continues its service. -/
theorem Service.next? {origin : Nat} {disk middle : Disk} {server current final : Server}
    {history : List Event} (service : Service origin disk server history middle current)
    {handled : Handled} (found : current.next? = some (handled, final)) :
    Service origin disk server (history ++ [handled.event]) middle final := by
  obtain ⟨⟨event, agenda⟩, isNext, reached⟩ := Option.map_eq_some_iff.mp found
  cases reached
  exact service.awaits (Agenda.awaits_next? isNext)

/-- A due timer waits on, or its event is handled. -/
theorem moment_fireAlong {server : Server} {timer : Timer} {networks : List Network}
    (waits : timer ∈ server.agenda.timers) (due : timer.deadline ≤ server.agenda.clock)
    (walked : networks.Perm server.table.networks) :
    Moment server ((server.fireAlong timer networks).1.map Handled.event)
      (server.fireAlong timer networks).2 := by
  unfold fireAlong
  cases fired : server.agenda.fire timer with
  | mk outcome agenda =>
      cases outcome with
      | none => exact .wait timer waits due fired
      | some event => exact .handle timer waits due fired networks walked

/-- A service goes on while time passes. -/
theorem Service.passes {origin : Nat} {disk middle : Disk} {server current next : Server}
    {history : List Event} {handled : List Handled}
    (service : Service origin disk server history middle current)
    (passes : current.Passes handled next) :
    Service origin disk server (history ++ handled.map Handled.event) middle next := by
  induction passes generalizing history with
  | done => exact (List.append_nil history).symm ▸ service
  | elapse milliseconds _ inductionHypothesis =>
      have continued := service.moment (.elapse milliseconds)
      rw [List.append_nil] at continued
      exact inductionHypothesis continued
  | fire timer waits due _ inductionHypothesis =>
      rw [List.map_append, ← List.append_assoc]
      exact inductionHypothesis (service.moment (moment_fireAlong waits due (.refl _)))

/-- A server that lets time pass continues its service. -/
theorem Service.elapse {origin : Nat} {disk middle : Disk} {server current : Server}
    {history : List Event} (service : Service origin disk server history middle current)
    (milliseconds : Nat) :
    Service origin disk server
      (history ++ (current.elapse milliseconds).1.map Handled.event) middle
      (current.elapse milliseconds).2 :=
  service.passes (current.passes_elapse milliseconds)

/-- A server that has resumed remembers all contacts of its store that have not ended. -/
structure Remembers (settings : Settings) (origin : Nat) (disk : Disk) (server : Server) :
    Prop where
  unchanged : server.settings = settings
  patient : server.agenda.Patient origin
  covers : ∀ stored, Store.loadOrEmpty disk settings.storePath = .ok stored →
    server.agenda.Covers origin stored

/-- A missing store is loaded as an empty set. -/
theorem loadOrEmpty_none {disk : Disk} {path : String} (none : Store.load disk path = .ok none) :
    Store.loadOrEmpty disk path = .ok ContactSet.empty := by
  rw [Store.loadOrEmpty, none]
  rfl

theorem loadOrEmpty_some {disk : Disk} {path : String} {stored : ContactSet}
    (loads : Store.load disk path = .ok (some stored)) :
    Store.loadOrEmpty disk path = .ok stored := by
  rw [Store.loadOrEmpty, loads]
  rfl

/-- Whatever a server has done before, it remembers the contacts of its store when it resumes. -/
theorem remembers_resume {server : Server} {origin : Nat} {now : Instant}
    (patient : server.agenda.Patient origin) (reading : now.toNat = origin + server.agenda.clock)
    (disk : Disk) : Remembers server.settings origin disk (server.resume disk now).2 := by
  cases loads : Store.load disk server.settings.storePath with
  | error fault =>
      have unchanged : (server.resume disk now).2 = server := by rw [resume, loads]
      rw [unchanged]
      refine ⟨rfl, patient, fun stored found => ?_⟩
      rw [Store.loadOrEmpty, loads] at found
      cases found
  | ok found =>
      cases found with
      | none =>
          have unchanged : (server.resume disk now).2 = server := by rw [resume, loads]
          rw [unchanged]
          refine ⟨rfl, patient, fun stored found => ?_⟩
          cases (loadOrEmpty_none loads).symm.trans found
          exact Agenda.covers_empty origin _
      | some set =>
          have scheduled : (server.resume disk now).2 = server.schedule (set.upcoming now) now := by
            rw [resume, loads]
            rfl
          rw [scheduled]
          refine ⟨rfl, patient.registerAll reading _, fun stored found => ?_⟩
          cases (loadOrEmpty_some loads).symm.trans found
          exact Agenda.covers_register_upcoming reading set

section Remembering

variable {settings : Settings} {origin : Nat} {disk : Disk} {server : Server}
  (remembers : Remembers settings origin disk server)
include remembers

/-- A server remembers the store while it ingests. -/
theorem Remembers.ingest (incoming : ContactSet) {now : Instant}
    (reading : now.toNat = origin + server.agenda.clock) :
    Remembers settings origin (server.ingest disk incoming now).2.2
      (server.ingest disk incoming now).2.1 := by
  obtain ⟨rfl, patient, covers⟩ := remembers
  cases ingested : Store.ingest disk server.settings.storePath incoming with
  | error fault =>
      have unchanged : (server.ingest disk incoming now).2 = (server, disk) := by
        rw [Server.ingest, ingested]
      rw [unchanged]
      exact ⟨rfl, patient, covers⟩
  | ok result =>
      obtain ⟨new, next⟩ := result
      have scheduled : (server.ingest disk incoming now).2 = (server.schedule new now, next) := by
        rw [Server.ingest, ingested]
      obtain ⟨stored, loads, rfl, keeps⟩ := Store.keeps_of_ingest ingested
      rw [scheduled]
      refine ⟨rfl, patient.registerAll reading _, fun found loadsFound => ?_⟩
      cases keeps.loadOrEmpty.symm.trans loadsFound
      exact (covers stored loads).register_new incoming now

/-- What is remembered does not depend on other files. -/
theorem Remembers.elsewhere {other : Disk}
    (untouched : other.read server.settings.storePath = disk.read server.settings.storePath) :
    Remembers settings origin other server := by
  obtain ⟨rfl, patient, covers⟩ := remembers
  refine ⟨rfl, patient, fun stored loads => covers stored ?_⟩
  rw [Store.loadOrEmpty, Store.load, untouched] at loads
  exact loads

/-- A server remembers the store when a timer fires. -/
theorem Remembers.fired {next : Agenda} {timer : Timer} {outcome : Option Event}
    (waits : timer ∈ server.agenda.timers) (due : timer.deadline ≤ server.agenda.clock)
    (fired : server.agenda.fire timer = (outcome, next)) :
    next.Patient origin ∧ ∀ stored, Store.loadOrEmpty disk settings.storePath = .ok stored →
      next.Covers origin stored := by
  have becomes := server.agenda.fired timer
  rw [fired] at becomes
  exact ⟨becomes.patient remembers.patient waits due, fun stored loads =>
    (remembers.covers stored loads).fired becomes remembers.patient waits due⟩

/-- A server remembers the store while time passes. -/
theorem Remembers.moment {events : List Event} {next : Server}
    (moment : Moment server events next) : Remembers settings origin disk next := by
  have unchanged := remembers.unchanged
  cases moment with
  | elapse milliseconds =>
      exact ⟨unchanged, remembers.patient, fun stored loads =>
        (remembers.covers stored loads).advance milliseconds⟩
  | wait timer waits due fired =>
      obtain ⟨patient, covers⟩ := remembers.fired waits due fired
      exact ⟨unchanged, patient, covers⟩
  | handle timer waits due fired =>
      obtain ⟨patient, covers⟩ := remembers.fired waits due fired
      exact ⟨unchanged, patient, covers⟩

/-- A server remembers its store as long as its service goes on. -/
theorem Remembers.service {history : List Event} {final : Disk} {next : Server}
    (service : Service origin disk server history final next) :
    Remembers settings origin final next := by
  induction service with
  | start => exact remembers
  | @resume _ middle current _ now reading inductionHypothesis =>
      have again := remembers_resume inductionHypothesis.patient reading middle
      rw [inductionHypothesis.unchanged] at again
      exact again
  | ingest _ incoming _ reading inductionHypothesis =>
      exact inductionHypothesis.ingest incoming reading
  | elsewhere _ _ untouched inductionHypothesis => exact inductionHypothesis.elsewhere untouched
  | moment _ moment inductionHypothesis => exact inductionHypothesis.moment moment

end Remembering

/-- After a server has resumed, every valid contact that its store has and that has not ended is
tracked at any time, and a timer waits for its closing. -/
theorem Service.tracks_stored {settings : Settings} {origin : Nat} {disk final : Disk}
    {now : Instant} (reading : now.toNat = origin) {history : List Event} {server : Server}
    (service : Service origin disk ((Server.start settings).resume disk now).2 history final server)
    {stored : ContactSet} (loads : Store.load final settings.storePath = .ok (some stored))
    {contact : Contact} (present : stored.contains contact) (isValid : contact.isValid)
    (upcoming : origin + server.agenda.clock < contact.stop.toNat) :
    server.agenda.tracks contact ∧
      ∃ timer ∈ server.agenda.timers, timer.event.boundary = .closing ∧
        timer.event.contact.Same contact := by
  have resumed : Remembers (Server.start settings).settings origin disk
      ((Server.start settings).resume disk now).2 :=
    remembers_resume (Agenda.patient_empty origin) reading disk
  have remembers := resumed.service service
  have tracks := remembers.covers stored (loadOrEmpty_some loads) contact present isValid upcoming
  have started : Run settings [] (Server.start settings) := .start
  obtain ⟨notes, session, -⟩ := (service.run (started.resume disk now)).session
  exact ⟨tracks, session.accounts.sound.closing_of_tracks tracks⟩

/-- Both contacts are stored at first, and this one has ended before the server resumes. -/
def elapsed : Contact :=
  { start := 1000
    duration := 500
    first := ⟨10, ⟨1⟩⟩
    second := ⟨20, ⟨2⟩⟩ }

/-- This contact is more than a year ahead. -/
def distant : Contact :=
  { start := 40000000000
    duration := 60000
    first := ⟨40, ⟨4⟩⟩
    second := ⟨30, ⟨3⟩⟩ }

/-- This contact is ingested, and it passes in the meantime. -/
def passing : Contact :=
  { start := 7000
    duration := 1000
    first := ⟨10, ⟨1⟩⟩
    second := ⟨30, ⟨3⟩⟩ }

def relay : Settings :=
  { routerId := .v4 ⟨1⟩
    own := 1
    storePath := "contacts"
    exportPath := none
    neighbors := []
    routes := []
    contacts := ContactSet.empty }

def relayDisk : Disk :=
  ⟨["home"], [(["home", "contacts"], .file (Record.writeAll [elapsed, distant]))]⟩

/-- A contact that is declared again from the other side is tracked for more than a year, over
which its timers are armed again. -/
theorem Service.tracks_stored_distant :
    ∃ final server stored,
      Service 5000 relayDisk ((Server.start relay).resume relayDisk 5000).2
        [⟨passing, .opening⟩, ⟨passing, .closing⟩] final server ∧
      Store.load final relay.storePath = .ok (some stored) ∧
      stored.members = [elapsed, passing, distant] ∧
      server.agenda.timers.map Timer.key = [4, 5] ∧
      server.agenda.tracks distant ∧
      ∃ timer ∈ server.agenda.timers, timer.event.boundary = .closing ∧
        timer.event.contact.Same distant := by
  have resumed : Service 5000 relayDisk ((Server.start relay).resume relayDisk 5000).2 [] relayDisk
      ((Server.start relay).resume relayDisk 5000).2 := .start
  have later := resumed.moment (.elapse 1000)
  have ingested := later.ingest (ContactSet.ofList [distant.flip, passing]) 6000 (by decide)
  have ready := ingested.moment (.elapse 2000)
  have opened := ready.moment
    (.handle ⟨2, ⟨passing, .opening⟩, 2000, 0⟩ (by decide) (by decide) rfl [] (by decide))
  have closed := opened.moment
    (.handle ⟨3, ⟨passing, .closing⟩, 3000, 0⟩ (by decide) (by decide) rfl [] (by decide))
  have year := closed.moment (.elapse Timer.longestWait)
  have once := year.moment
    (.wait ⟨0, ⟨distant, .opening⟩, 31536000000, 8463995000⟩ (by decide) (by decide) rfl)
  have twice := once.moment
    (.wait ⟨1, ⟨distant, .closing⟩, 31536000000, 8464055000⟩ (by decide) (by decide) rfl)
  refine ⟨_, _, ContactSet.ofList [elapsed, passing, distant], twice, rfl, by decide, by decide, ?_⟩
  exact twice.tracks_stored (by decide) rfl (by decide) (by decide) (by decide)

end Server

end ContactPlan
