import ContactPlan.Proofs.Server.Service

/-
This file follows contacts through the whole lifetime of a server.
The store remembers every contact that was scheduled, so that none is scheduled again when it has
closed.
-/

namespace ContactPlan

namespace Note

@[simp] theorem contacts_accepted (contact : Contact) :
    contacts [accepted contact] = [contact] := rfl

/-- No contact is accepted twice, however it is declared. -/
def Once (notes : List Note) : Prop :=
  (contacts notes).Pairwise fun left right => ¬left.Same right

/-- What is noted about a contact accepts the contact alone. -/
theorem contacts_about (contact : Contact) (notes : List Note) :
    contacts (about contact notes) =
      (contacts notes).filter fun accepted => accepted.Same contact := by
  induction notes with
  | nil => rfl
  | cons note rest inductionHypothesis =>
      unfold contacts about at inductionHypothesis ⊢
      cases note with
      | accepted declared =>
          by_cases same : declared.Same contact <;> simp [accepted?, same, inductionHypothesis]
      | delivered event =>
          by_cases same : event.contact.Same contact <;>
            simp [List.filterMap_cons, accepted?, same, inductionHypothesis]

/-- At most one acceptance is about a contact. -/
theorem Once.contacts_about_cases {notes : List Note} (once : Once notes) (contact : Contact) :
    contacts (about contact notes) = [] ∨
      ∃ declared, contacts (about contact notes) = [declared] := by
  have apart : (contacts (about contact notes)).Pairwise fun left right => ¬left.Same right := by
    rw [contacts_about]
    exact List.Pairwise.sublist List.filter_sublist once
  have same (declared : Contact) (member : declared ∈ contacts (about contact notes)) :
      declared.Same contact := by
    rw [contacts_about] at member
    simpa using (List.mem_filter.mp member).2
  match shape : contacts (about contact notes) with
  | [] => exact .inl rfl
  | [declared] => exact .inr ⟨declared, rfl⟩
  | first :: second :: rest =>
      rw [shape] at apart same
      have different := (List.pairwise_cons.mp apart).1 second (by simp)
      exact absurd ((same first (by simp)).trans (same second (by simp)).symm) different

/-- A contact that has not been accepted before may be accepted. -/
theorem Once.append_accepted {notes : List Note} {contact : Contact} (once : Once notes)
    (fresh : ∀ earlier ∈ contacts notes, ¬earlier.Same contact) :
    Once (notes ++ [accepted contact]) := by
  unfold Once
  rw [contacts_append]
  refine List.pairwise_append.mpr ⟨once, List.pairwise_singleton _ _, ?_⟩
  intro earlier member other isNew
  rw [List.mem_singleton.mp isNew]
  exact fresh earlier member

end Note

/-- A contact that is accepted once has at most one event of each kind. -/
theorem Standing.Balanced.countP_le_one {notes : List Note} {ledger : List Standing}
    (balanced : Balanced notes ledger) (once : Note.Once notes) (contact : Contact)
    (boundary : Boundary) :
    ((Note.events notes).countP fun event =>
      event.contact.Same contact && event.boundary = boundary) ≤ 1 := by
  have onContact : ((Note.events notes).countP fun event =>
      event.contact.Same contact && event.boundary = boundary) =
        (Note.events (Note.about contact notes)).countP fun event => event.boundary = boundary := by
    rw [Note.events_about, List.countP_filter]
    exact List.countP_congr fun event _ => by simp [and_comm]
  have beginning : Note.events (Note.about contact notes) <+:
      Note.events (Note.rounds (Note.contacts (Note.about contact notes))) :=
    (balanced.about_prefix_rounds contact).filterMap Note.event?
  rw [onContact]
  refine Nat.le_trans beginning.sublist.countP_le ?_
  rcases once.contacts_about_cases contact with none | ⟨declared, one⟩
  · simp [none, Note.rounds, Note.events]
  · rw [one, Note.events_rounds_cons]
    cases boundary <;> simp [Note.rounds, Note.events]

namespace Agenda

/-- Only valid contacts of a list are accepted when it is registered. -/
theorem mem_contacts_registerAll {agenda : Agenda} {now : Instant} {contacts : List Contact}
    {contact : Contact}
    (member : contact ∈ Note.contacts (Note.ofReminders (agenda.registerAll now contacts).1)) :
    contact ∈ contacts ∧ contact.isValid := by
  induction contacts generalizing agenda with
  | nil => simp [Agenda.registerAll, Note.ofReminders, Note.contacts] at member
  | cons head rest inductionHypothesis =>
      by_cases accepts : agenda.accepts head
      · rw [registerAll_cons_accepted accepts, Note.ofReminders_append,
          Note.ofReminders_reminders, Note.contacts_append, List.mem_append] at member
        rcases member with isHead | later
        · obtain rfl : contact = head := by simpa using isHead
          exact ⟨List.mem_cons_self, (accepts_iff.mp accepts).1⟩
        · exact (inductionHypothesis later).imp_left (List.mem_cons_of_mem head)
      · rw [registerAll_cons_refused accepts] at member
        exact (inductionHypothesis member).imp_left (List.mem_cons_of_mem head)

/-- Contacts are accepted once as long as those that were accepted before are tracked. -/
theorem once_registerAll {agenda : Agenda} {notes : List Note} (once : Note.Once notes)
    (now : Instant) {contacts : List Contact}
    (known : ∀ contact ∈ contacts, ∀ earlier ∈ Note.contacts notes, earlier.Same contact →
      agenda.tracks contact) :
    Note.Once (notes ++ Note.ofReminders (agenda.registerAll now contacts).1) := by
  induction contacts generalizing agenda notes with
  | nil => simpa [Agenda.registerAll, Note.ofReminders] using once
  | cons head rest inductionHypothesis =>
      by_cases accepts : agenda.accepts head
      · rw [registerAll_cons_accepted accepts, Note.ofReminders_append,
          Note.ofReminders_reminders, ← List.append_assoc]
        have untracked := (accepts_iff.mp accepts).2
        refine inductionHypothesis (once.append_accepted fun earlier isEarlier same =>
          untracked (known head List.mem_cons_self earlier isEarlier same)) ?_
        intro contact isContact earlier isEarlier same
        rw [Note.contacts_append, List.mem_append] at isEarlier
        rcases isEarlier with before | isHead
        · exact tracks_track.mpr
            (.inl (known contact (List.mem_cons_of_mem head isContact) earlier before same))
        · obtain rfl : earlier = head := by simpa using isHead
          exact tracks_track.mpr (.inr same)
      · rw [registerAll_cons_refused accepts]
        exact inductionHypothesis once fun contact isContact =>
          known contact (List.mem_cons_of_mem head isContact)

end Agenda

namespace Server

/-- The store has every contact that was accepted, and such a contact is tracked until it ends. -/
structure Recalls (settings : Settings) (origin : Nat) (disk : Disk) (notes : List Note)
    (server : Server) : Prop where
  session : Agenda.Session notes server.agenda
  unchanged : server.settings = settings
  patient : server.agenda.Patient origin
  once : Note.Once notes
  valid : ∀ contact ∈ Note.contacts notes, contact.isValid
  stored : ∀ stored, Store.loadOrEmpty disk settings.storePath = .ok stored →
    ∀ contact ∈ Note.contacts notes, stored.contains contact
  standing : ∀ contact ∈ Note.contacts notes,
    server.agenda.tracks contact ∨ contact.stop.toNat ≤ origin + server.agenda.clock

/-- At the start there is nothing to recall. -/
theorem recalls_start (settings : Settings) (origin : Nat) (disk : Disk) :
    Recalls settings origin disk [] (Server.start settings) where
  session := .start
  unchanged := rfl
  patient := Agenda.patient_empty origin
  once := List.Pairwise.nil
  valid := by simp [Note.contacts]
  stored := by simp [Note.contacts]
  standing := by simp [Note.contacts]

section Recalling

variable {settings : Settings} {origin : Nat} {disk : Disk} {notes : List Note} {server : Server}
  (recalls : Recalls settings origin disk notes server)
include recalls

/-- Contacts may be scheduled when the store has them afterwards, and when those of them that were
accepted before are tracked. -/
theorem Recalls.schedule {now : Instant} (reading : now.toNat = origin + server.agenda.clock)
    {set : ContactSet} {next : Disk}
    (known : ∀ contact ∈ set.members, ∀ earlier ∈ Note.contacts notes, earlier.Same contact →
      server.agenda.tracks contact)
    (stored : ∀ stored, Store.loadOrEmpty next settings.storePath = .ok stored →
      ∀ contact : Contact, contact.isValid →
        contact ∈ Note.contacts notes ∨ contact ∈ set.members → stored.contains contact) :
    Recalls settings origin next
      (notes ++ Note.ofReminders (server.agenda.register set now).1) (server.schedule set now) := by
  have accepted (contact : Contact)
      (member : contact ∈ Note.contacts (notes ++
        Note.ofReminders (server.agenda.register set now).1)) :
      (contact ∈ Note.contacts notes ∨ contact ∈ set.members) ∧ contact.isValid := by
    rw [Note.contacts_append, List.mem_append] at member
    rcases member with before | new
    · exact ⟨.inl before, recalls.valid contact before⟩
    · exact (Agenda.mem_contacts_registerAll new).imp_left .inr
  have sameClock : (server.schedule set now).agenda.clock = server.agenda.clock :=
    Agenda.clock_registerAll _ _ _
  refine ⟨recalls.session.register set now, recalls.unchanged,
    recalls.patient.registerAll reading _, Agenda.once_registerAll recalls.once now known,
    fun contact member => (accepted contact member).2, ?_, ?_⟩
  · intro found loads contact member
    exact stored found loads contact (accepted contact member).2 (accepted contact member).1
  · intro contact member
    rw [sameClock]
    rcases (accepted contact member).1 with before | new
    · exact (recalls.standing contact before).imp_left fun tracked =>
        Agenda.tracks_registerAll.mpr (.inl tracked)
    · exact .inl (Agenda.tracks_registerAll.mpr
        (.inr ⟨(accepted contact member).2, contact, new, .refl contact⟩))

/-- A contact that was accepted before and has not ended is tracked when the server resumes. -/
theorem Recalls.resume {now : Instant} (reading : now.toNat = origin + server.agenda.clock) :
    ∃ more, Note.events more = [] ∧
      Recalls settings origin disk (notes ++ more) (server.resume disk now).2 := by
  have unchanged (same : (server.resume disk now).2 = server) : ∃ more, Note.events more = [] ∧
      Recalls settings origin disk (notes ++ more) (server.resume disk now).2 := by
    rw [same]
    exact ⟨[], rfl, (List.append_nil notes).symm ▸ recalls⟩
  cases loads : Store.load disk server.settings.storePath with
  | error fault => exact unchanged (by rw [Server.resume, loads])
  | ok found =>
      cases found with
      | none => exact unchanged (by rw [Server.resume, loads])
      | some set =>
          have scheduled : (server.resume disk now).2 =
              server.schedule (set.upcoming now) now := by
            rw [Server.resume, loads]
            rfl
          rw [scheduled]
          rw [recalls.unchanged] at loads
          refine ⟨_, Note.events_ofReminders _, recalls.schedule reading ?_ ?_⟩
          · intro contact member earlier before same
            have upcoming : now < contact.stop := by
              simpa [ContactSet.upcoming] using (List.mem_filter.mp member).2
            rcases recalls.standing earlier before with tracked | ended
            · exact (Agenda.tracks_congr same).mp tracked
            · rw [same.stop_eq, ← reading] at ended
              exact absurd (UInt64.lt_iff_toNat_lt.mp upcoming) (Nat.not_lt.mpr ended)
          · intro stored isStored contact _ either
            rcases either with before | member
            · exact recalls.stored stored isStored contact before
            · cases (loadOrEmpty_some loads).symm.trans isStored
              exact ContactSet.contains_iff.mpr
                ⟨contact, (List.mem_filter.mp member).1, .refl contact⟩

/-- A contact that was accepted before is stored, so that it is not new when it is ingested. -/
theorem Recalls.ingest (incoming : ContactSet) {now : Instant}
    (reading : now.toNat = origin + server.agenda.clock) :
    ∃ more, Note.events more = [] ∧
      Recalls settings origin (server.ingest disk incoming now).2.2 (notes ++ more)
        (server.ingest disk incoming now).2.1 := by
  cases ingested : Store.ingest disk server.settings.storePath incoming with
  | error fault =>
      have unchanged : (server.ingest disk incoming now).2 = (server, disk) := by
        rw [Server.ingest, ingested]
      rw [unchanged]
      exact ⟨[], rfl, (List.append_nil notes).symm ▸ recalls⟩
  | ok result =>
      obtain ⟨new, next⟩ := result
      have scheduled : (server.ingest disk incoming now).2 = (server.schedule new now, next) := by
        rw [Server.ingest, ingested]
      rw [recalls.unchanged] at ingested
      obtain ⟨stored, loads, rfl, keeps⟩ := Store.keeps_of_ingest ingested
      have remembered := recalls.stored stored loads
      rw [scheduled]
      refine ⟨_, Note.events_ofReminders _, recalls.schedule reading ?_ ?_⟩
      · intro contact member earlier before same
        have isNew : (incoming.valid.difference stored).contains earlier :=
          ContactSet.contains_iff.mpr ⟨contact, member, same.symm⟩
        rw [Store.contains_new, remembered earlier before] at isNew
        simp at isNew
      · intro found loadsFound contact isValid either
        cases keeps.loadOrEmpty.symm.trans loadsFound
        rw [Store.contains_merged, isValid, Bool.true_and, Bool.or_eq_true]
        rcases either with before | member
        · exact .inl (remembered contact before)
        · have isNew := ContactSet.contains_of_mem member
          rw [Store.contains_new, Bool.and_eq_true, Bool.and_eq_true] at isNew
          exact .inr isNew.1.2

/-- What is recalled does not depend on other files. -/
theorem Recalls.elsewhere {other : Disk}
    (untouched : other.read server.settings.storePath = disk.read server.settings.storePath) :
    Recalls settings origin other notes server := by
  refine ⟨recalls.session, recalls.unchanged, recalls.patient, recalls.once, recalls.valid,
    fun stored loads => recalls.stored stored ?_, recalls.standing⟩
  rw [recalls.unchanged] at untouched
  rw [Store.loadOrEmpty, Store.load, untouched] at loads
  exact loads

/-- A contact that closes has ended, and all others are tracked as before. -/
theorem Recalls.fired {next : Agenda} {timer : Timer} {outcome : Option Event}
    (waits : timer ∈ server.agenda.timers) (due : timer.deadline ≤ server.agenda.clock)
    (fired : server.agenda.fire timer = (outcome, next)) (table : Table) :
    Recalls settings origin disk (notes ++ Note.ofOutcome outcome)
      { server with agenda := next, table } := by
  have becomes := server.agenda.fired timer
  have session := recalls.session.fire timer waits due
  rw [fired] at becomes session
  have sameContacts :
      Note.contacts (notes ++ Note.ofOutcome outcome) = Note.contacts notes := by
    rw [Note.contacts_append]
    cases outcome <;> simp [Note.ofOutcome, Note.contacts, Note.accepted?]
  refine ⟨session, recalls.unchanged, becomes.patient recalls.patient waits due, ?_, ?_, ?_, ?_⟩
  · unfold Note.Once
    rw [sameContacts]
    exact recalls.once
  · rw [sameContacts]
    exact recalls.valid
  · rw [sameContacts]
    exact recalls.stored
  · rw [sameContacts]
    intro contact member
    change next.tracks contact ∨ contact.stop.toNat ≤ origin + next.clock
    rw [becomes.clock_eq]
    rcases recalls.standing contact member with tracked | ended
    · refine (becomes.tracks tracked).imp_right ?_
      rintro ⟨event, delivered, closes, same⟩
      rw [← same.stop_eq]
      exact becomes.stop_le recalls.patient waits due delivered closes
    · exact .inr ended

/-- What is recalled stays while time passes. -/
theorem Recalls.moment {events : List Event} {next : Server}
    (moment : Moment server events next) :
    ∃ more, Note.events more = events ∧ Recalls settings origin disk (notes ++ more) next := by
  cases moment with
  | elapse milliseconds =>
      refine ⟨[], rfl, ?_⟩
      rw [List.append_nil]
      refine ⟨recalls.session.elapse milliseconds, recalls.unchanged, recalls.patient,
        recalls.once, recalls.valid, recalls.stored, fun contact member => ?_⟩
      refine (recalls.standing contact member).imp_right fun ended => Nat.le_trans ended ?_
      exact Nat.add_le_add_left (Nat.le_add_right _ _) origin
  | wait timer waits due fired => exact ⟨_, rfl, recalls.fired waits due fired server.table⟩
  | handle timer waits due fired => exact ⟨_, rfl, recalls.fired waits due fired _⟩

end Recalling

/-- A server recalls what it has accepted as long as its service goes on. -/
theorem Service.recalls {settings : Settings} {origin : Nat} {disk final : Disk}
    {history : List Event} {server : Server}
    (service : Service origin disk (Server.start settings) history final server) :
    ∃ notes, Note.events notes = history ∧ Recalls settings origin final notes server := by
  induction service with
  | start => exact ⟨[], rfl, recalls_start settings origin disk⟩
  | resume _ now reading inductionHypothesis =>
      obtain ⟨notes, before, recalls⟩ := inductionHypothesis
      obtain ⟨more, after, resumed⟩ := recalls.resume reading
      exact ⟨_, by rw [Note.events_append, before, after, List.append_nil], resumed⟩
  | ingest _ incoming now reading inductionHypothesis =>
      obtain ⟨notes, before, recalls⟩ := inductionHypothesis
      obtain ⟨more, after, ingested⟩ := recalls.ingest incoming reading
      exact ⟨_, by rw [Note.events_append, before, after, List.append_nil], ingested⟩
  | elsewhere _ other untouched inductionHypothesis =>
      obtain ⟨notes, before, recalls⟩ := inductionHypothesis
      exact ⟨notes, before, recalls.elsewhere untouched⟩
  | moment _ moment inductionHypothesis =>
      obtain ⟨notes, before, recalls⟩ := inductionHypothesis
      obtain ⟨more, after, passed⟩ := recalls.moment moment
      exact ⟨_, by rw [Note.events_append, before, after], passed⟩

/-- At most one opening and at most one closing of a contact are handed out in the lifetime of a
server, whatever it resumes and however often and from whichever side the contact is ingested. -/
theorem Service.serves_once {settings : Settings} {origin : Nat} {disk final : Disk}
    {history : List Event} {server : Server}
    (service : Service origin disk (Server.start settings) history final server)
    (contact : Contact) (boundary : Boundary) :
    (history.countP fun event =>
      event.contact.Same contact && event.boundary = boundary) ≤ 1 := by
  obtain ⟨notes, rfl, recalls⟩ := service.recalls
  exact recalls.session.accounts.balanced.countP_le_one recalls.once contact boundary

/-- This contact has passed when it is ingested for the first time. -/
def missed : Contact :=
  { start := 2000
    duration := 500
    first := ⟨20, ⟨2⟩⟩
    second := ⟨30, ⟨3⟩⟩ }

def missedHistory : List Event :=
  [⟨missed, .opening⟩, ⟨missed, .closing⟩, ⟨passing, .opening⟩, ⟨passing, .closing⟩]

/-- Both contacts are ingested from either side before, while and after they last, and the server
resumes in between. -/
theorem Service.serves_once_repeated :
    ∃ final server, Service 5000 relayDisk (Server.start relay) missedHistory final server ∧
      server.agenda.tracked.map Tracked.contact = [distant] ∧
      (missedHistory.countP fun event =>
        event.contact.Same passing.flip && event.boundary = .opening) ≤ 1 := by
  have handled {history : List Event} {middle : Disk} {current : Server}
      (service : Service 5000 relayDisk (Server.start relay) history middle current)
      (timer : Timer) (event : Event)
      (fires : timer ∈ current.agenda.timers ∧ timer.deadline ≤ current.agenda.clock ∧
        (current.agenda.fire timer).1 = some event) :
      Service 5000 relayDisk (Server.start relay) (history ++ [event]) middle
        { current with
          agenda := (current.agenda.fire timer).2
          table := (current.table.apply (current.settings.router.changesAlong event current.table
            current.table.networks)).1 } :=
    service.moment (.handle timer fires.1 fires.2.1 (Prod.ext fires.2.2 rfl) _ (.refl _))
  let declared := ContactSet.ofList [missed, passing]
  let flipped := ContactSet.ofList [missed.flip, passing.flip]
  have started : Service 5000 relayDisk (Server.start relay) [] relayDisk (Server.start relay) :=
    .start
  have ingested := (started.resume 5000 (by decide)).ingest declared 5000 (by decide)
  have late := handled ingested ⟨3, ⟨missed, .closing⟩, 0, 0⟩ ⟨missed, .opening⟩
    (by decide +kernel)
  have finished := handled late ⟨6, ⟨missed, .closing⟩, 0, 0⟩ ⟨missed, .closing⟩ (by decide +kernel)
  have before := (finished.ingest flipped 5000 (by decide +kernel)).resume 5000 (by decide +kernel)
  have opened := handled (before.moment (.elapse 2000)) ⟨4, ⟨passing, .opening⟩, 2000, 0⟩
    ⟨passing, .opening⟩ (by decide +kernel)
  have during := (opened.ingest flipped 7000 (by decide +kernel)).moment (.elapse 1000)
  have closed := handled during ⟨5, ⟨passing, .closing⟩, 3000, 0⟩ ⟨passing, .closing⟩
    (by decide +kernel)
  have after := (closed.ingest declared 8000 (by decide +kernel)).resume 8000 (by decide +kernel)
  exact ⟨_, _, after, by decide +kernel, after.serves_once passing.flip .opening⟩

end Server

end ContactPlan
