import ContactPlan.Proofs.Agenda.Registration
import ContactPlan.Proofs.Server.Service
import ContactPlan.Server.Daemon

namespace ContactPlan

/-- At the start the stored contacts that have not ended are due, and the declared contacts that
were not stored. -/
def ContactSet.scheduled (stored declared : ContactSet) (now : Instant) : List Contact :=
  (stored.upcoming now).valid.members ++ (declared.valid.difference stored).members

section Scheduled

variable {stored declared : ContactSet} {now : Instant}

/-- Upcoming contacts are stored ones. -/
theorem ContactSet.contains_of_mem_upcoming {contact : Contact}
    (member : contact ∈ (stored.upcoming now).valid.members) : stored.contains contact :=
  contains_of_mem (List.mem_of_mem_filter (List.mem_of_mem_filter member))

/-- New contacts are valid and not stored. -/
theorem ContactSet.mem_new {contact : Contact}
    (member : contact ∈ (declared.valid.difference stored).members) :
    contact.isValid ∧ ¬stored.contains contact := by
  obtain ⟨isDeclared, isUnknown⟩ := mem_difference.mp member
  exact ⟨(List.mem_filter.mp isDeclared).2, isUnknown⟩

/-- No contact is due twice, even if it is declared from another side than it is stored. -/
theorem ContactSet.scheduled_apart :
    (stored.scheduled declared now).Pairwise fun left right => ¬left.Same right := by
  apply List.pairwise_append.mpr
  refine ⟨(stored.upcoming now).valid.ascending.apart,
    (declared.valid.difference stored).ascending.apart, ?_⟩
  intro first isStored second isNew same
  have present := ContactSet.contains_of_mem_upcoming isStored
  rw [ContactSet.contains_congr same] at present
  exact (ContactSet.mem_new isNew).2 present

end Scheduled

namespace Agenda

/-- An agenda that tracks nothing accepts every valid contact. -/
theorem register_empty (set : ContactSet) (now : Instant) :
    Agenda.empty.register set now =
      (set.valid.members.flatMap fun contact => contact.reminders now,
        Agenda.empty.trackAll now set.valid.members) := by
  have accepts : Agenda.empty.accepts = Contact.isValid := by
    funext contact
    rw [Bool.eq_iff_iff, accepts_iff]
    simp [tracks_empty]
  rw [register_eq, accepts]
  rfl

/-- None of the new contacts is tracked, because all that are tracked were stored. -/
theorem register_new (stored declared : ContactSet) (now : Instant) :
    ((Agenda.empty.trackAll now (stored.upcoming now).valid.members).register
      (declared.valid.difference stored) now).2 =
      Agenda.empty.trackAll now (stored.scheduled declared now) := by
  let upcoming := (stored.upcoming now).valid.members
  have enrols := Agenda.empty.enrols_trackAll now upcoming
  have all : (declared.valid.difference stored).members.filter
      (Agenda.empty.trackAll now upcoming).accepts =
      (declared.valid.difference stored).members := by
    apply List.filter_eq_self.mpr
    intro contact isNew
    obtain ⟨isValid, unknown⟩ := ContactSet.mem_new isNew
    refine accepts_iff.mpr ⟨isValid, fun tracks => ?_⟩
    obtain ⟨member, isMember, same⟩ :=
      (enrols.tracks_iff.mp tracks).resolve_left (tracks_empty contact)
    have present := ContactSet.contains_of_mem_upcoming isMember
    exact unknown ((ContactSet.contains_congr same).mp present)
  rw [register_eq, all, ContactSet.scheduled, trackAll_append]

end Agenda

namespace Server

section Startup

variable {settings : Settings} {disk : Disk} {stored : ContactSet}
  (loads : Store.loadOrEmpty disk settings.storePath = .ok stored)
include loads

/-- A server that resumes before anything else tracks what is upcoming, and counts it. -/
theorem resume_start (now : Instant) :
    ∃ count, (Server.start settings).resume disk now = (.ok count, { Server.start settings with
        agenda := Agenda.empty.trackAll now (stored.upcoming now).valid.members }) ∧
      count.getD 0 = (stored.upcoming now).valid.size := by
  cases found : Store.load disk settings.storePath with
  | error fault =>
      rw [Store.loadOrEmpty, found] at loads
      cases loads
  | ok result =>
      cases result with
      | none =>
          cases (loadOrEmpty_none found).symm.trans loads
          refine ⟨none, ?_, rfl⟩
          rw [resume, Server.start, found]
          rfl
      | some set =>
          cases (loadOrEmpty_some found).symm.trans loads
          have registered := Agenda.register_empty (stored.upcoming now) now
          refine ⟨some (stored.upcoming now).valid.size, ?_, rfl⟩
          rw [resume, Server.start, found]
          simp only [registered, Agenda.length_reminders, Nat.mul_div_cancel_left _ Nat.two_pos]
          rfl

/-- The declared contacts that were not stored are tracked behind what is upcoming. -/
theorem ingest_resumed {declared new : ContactSet} {now : Instant} {server : Server} {final : Disk}
    (ingested : { Server.start settings with
        agenda := Agenda.empty.trackAll now (stored.upcoming now).valid.members }.ingest
      disk declared now = (.ok new, server, final)) :
    new = declared.valid.difference stored ∧
      server.agenda = Agenda.empty.trackAll now (stored.scheduled declared now) := by
  cases saved : Store.ingest disk settings.storePath declared with
  | error fault =>
      rw [ingest, Server.start, saved] at ingested
      cases ingested
  | ok result =>
      obtain ⟨added, next⟩ := result
      rw [ingest, Server.start, saved] at ingested
      cases ingested
      obtain ⟨known, loadsKnown, rfl, -⟩ := Store.keeps_of_ingest saved
      cases loadsKnown.symm.trans loads
      exact ⟨rfl, Agenda.register_new stored declared now⟩

/-- Whatever the store holds, a server that resumes counts the valid contacts that have not ended.
When it has ingested the declared contacts as well, it returns the valid ones that were not stored,
and its agenda waits for these and for the upcoming ones. Each of them has two timers, for its
opening and for its closing, and nothing else is scheduled. -/
theorem starts_scheduled (now : Instant) :
    let upcoming := stored.members.filter fun contact => contact.isValid && now < contact.stop
    ∃ count resumed, (Server.start settings).resume disk now = (.ok count, resumed) ∧
      count.getD 0 = upcoming.length ∧
      ∀ declared new server final,
        resumed.ingest disk declared now = (.ok new, server, final) →
        new.members = (declared.members.filter fun contact =>
          contact.isValid && !stored.contains contact) ∧
        (upcoming ++ new.members).Pairwise (fun left right => ¬left.Same right) ∧
        Agenda.empty.Enrols now (upcoming ++ new.members) server.agenda ∧
        (∀ contact, server.agenda.tracks contact ↔
          ∃ member ∈ upcoming ++ new.members, member.Same contact) ∧
        (∀ contact : Contact,
          contact.start.toNat - now.toNat ≤ contact.stop.toNat - now.toNat) ∧
        ∀ contact ∈ upcoming ++ new.members,
          ∃ key, ⟨contact, .awaiting key⟩ ∈ server.agenda.tracked ∧
            (server.agenda.timers.filter fun timer => timer.event.contact.Same contact).Perm
              [Timer.start key ⟨contact, .opening⟩ 0 (contact.start.toNat - now.toNat),
                Timer.start (key + 1) ⟨contact, .closing⟩ 0
                  (contact.stop.toNat - now.toNat)] := by
  intro upcoming
  have isUpcoming : (stored.upcoming now).valid.members = upcoming := List.filter_filter
  obtain ⟨count, resumes, counted⟩ := resume_start loads now
  refine ⟨count, _, resumes, counted.trans (congrArg List.length isUpcoming), ?_⟩
  intro declared new server final ingested
  obtain ⟨rfl, agenda⟩ := ingest_resumed loads ingested
  have enrols := Agenda.empty.enrols_trackAll now (stored.scheduled declared now)
  have apart : (stored.scheduled declared now).Pairwise _ := ContactSet.scheduled_apart
  have scheduled : stored.scheduled declared now =
      upcoming ++ (declared.valid.difference stored).members := by
    rw [ContactSet.scheduled, isUpcoming]
  rw [← agenda, scheduled] at enrols
  rw [scheduled] at apart
  refine ⟨List.filter_filter.trans ?_, apart, enrols, fun contact => ?_,
    fun contact => Nat.sub_le_sub_right contact.start_le_stop _,
    fun contact member => enrols.timers_of_empty apart member⟩
  · simp only [Bool.and_comm]
  · rw [enrols.tracks_iff]
    exact or_iff_right (Agenda.tracks_empty contact)

end Startup

/-- The file has one contact that has ended, one that has begun, one that has not and one that is
invalid. -/
def crowded : List Contact := [elapsed, passing, distant, { distant with duration := 0 }]

def crowdedDisk : Disk :=
  ⟨["home"], [(["home", "contacts"], .file (Record.writeAll crowded))]⟩

/-- This contact is declared after it has ended. -/
def belated : Contact := { elapsed with start := 500 }

def declaredAgain : ContactSet :=
  ContactSet.ofList [elapsed, passing.flip, belated, { belated with duration := 0 }]

/-- The stored contacts are declared again, one of them from its other side. -/
theorem starts_scheduled_crowded :
    Store.loadOrEmpty crowdedDisk relay.storePath = .ok (ContactSet.ofList crowded) ∧
      ∃ count resumed new server final,
        (Server.start relay).resume crowdedDisk 7500 = (.ok count, resumed) ∧
        count.getD 0 = 2 ∧
        resumed.ingest crowdedDisk declaredAgain 7500 = (.ok new, server, final) ∧
        new.members = [belated] ∧
        Agenda.empty.Enrols 7500 [passing, distant, belated] server.agenda ∧
        ∃ key, (server.agenda.timers.filter fun timer => timer.event.contact.Same passing).Perm
          [⟨key, ⟨passing, .opening⟩, 0, 0⟩, ⟨key + 1, ⟨passing, .closing⟩, 500, 0⟩] := by
  have reads : crowdedDisk.read relay.storePath = .ok (Record.writeAll crowded) := rfl
  have loads : Store.loadOrEmpty crowdedDisk relay.storePath = .ok (ContactSet.ofList crowded) := by
    rw [← Record.readAll_writeAll crowded]
    exact Store.loadOrEmpty_of_read reads
  obtain ⟨count, resumed, resumes, counted, ingests⟩ := starts_scheduled loads 7500
  have unchanged : resumed.settings = relay := by
    obtain ⟨_, again, -⟩ := resume_start loads 7500
    cases resumes.symm.trans again
    rfl
  obtain ⟨next, saved, -⟩ :=
    Store.ingest_keeps loads (Disk.writable_of_read reads) declaredAgain
  let new := declaredAgain.valid.difference (ContactSet.ofList crowded)
  have ingested : resumed.ingest crowdedDisk declaredAgain 7500 =
      (.ok new, resumed.schedule new 7500, next) := by
    rw [ingest, unchanged, saved]
  obtain ⟨-, -, enrols, -, -, timers⟩ := ingests declaredAgain _ _ next ingested
  have upcoming : ((ContactSet.ofList crowded).members.filter fun contact =>
      contact.isValid && 7500 < contact.stop) = [passing, distant] := by decide
  have isNew : new.members = [belated] := by decide
  rw [upcoming] at counted
  rw [upcoming, isNew] at enrols timers
  obtain ⟨key, -, own⟩ := timers passing (by decide)
  exact ⟨loads, count, resumed, new, _, next, resumes, counted, ingested, isNew, enrols, key, own⟩

end Server

/-- A daemon that has been launched waits for the boundaries of what was scheduled at its start. -/
theorem Daemon.launch_enrols {disk : Disk} {path : String} {settings : Settings} {now : Instant}
    {reports : List Report} {daemon : Daemon}
    (launched : Daemon.launch disk path settings now = (reports, .ok daemon)) :
    ∃ stored, Store.loadOrEmpty disk settings.storePath = .ok stored ∧
      Agenda.empty.Enrols now (stored.scheduled settings.contacts now) daemon.server.agenda := by
  cases loads : Store.loadOrEmpty disk settings.storePath with
  | error fault =>
      cases found : Store.load disk settings.storePath with
      | error fault =>
          rw [launch, Server.resume, Server.start, found] at launched
          cases launched
      | ok result =>
          rw [Store.loadOrEmpty, found] at loads
          cases loads
  | ok stored =>
      refine ⟨stored, rfl, ?_⟩
      obtain ⟨count, resumes, -⟩ := Server.resume_start loads now
      simp only [launch, resumes] at launched
      split at launched
      next => cases launched
      next new server final ingested =>
          obtain ⟨-, agenda⟩ := Server.ingest_resumed loads ingested
          cases launched
          rw [agenda]
          exact Agenda.enrols_trackAll _ now _

end ContactPlan
