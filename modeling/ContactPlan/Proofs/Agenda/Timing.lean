import ContactPlan.Proofs.Agenda.Matching

namespace ContactPlan

/-- A contact is registered at an instant, and the clock of the timers has a reading of its own. -/
structure Registration where
  contact : Contact
  now : Instant
  clock : Nat
  deriving DecidableEq

/-- The registered delay of a boundary counts from the reading of the clock. -/
def Registration.due (registration : Registration) (boundary : Boundary) : Nat :=
  registration.clock + (registration.contact.reminder boundary registration.now).delay

/-- A contact that would last longer than instants can be written ends with the last of them. -/
theorem Contact.toNat_stop (contact : Contact) :
    contact.stop.toNat = min (contact.start.toNat + contact.duration.toNat) (UInt64.size - 1) := by
  have positive : 0 < UInt64.size := by decide
  apply UInt64.toNat_ofNat_of_lt
  change min _ (UInt64.size - 1) < UInt64.size
  omega

/-- A contact does not end before it starts. -/
theorem Contact.start_le_stop (contact : Contact) : contact.start.toNat ≤ contact.stop.toNat := by
  have bounded : contact.start.toNat < UInt64.size := contact.start.toNat_lt
  have stop := contact.toNat_stop
  omega

/-- An opening is due no later than its closing. -/
theorem Registration.due_opening_le (registration : Registration) :
    registration.due .opening ≤ registration.due .closing := by
  have ordered := registration.contact.start_le_stop
  exact Nat.add_le_add_left (Nat.sub_le_sub_right ordered _) _

/-- Marks are notes with readings of the clock. -/
inductive Mark where
  | registered (registration : Registration)
  | delivered (occurrence : Occurrence)
  deriving DecidableEq

namespace Mark

def note : Mark → Note
  | registered registration => .accepted registration.contact
  | delivered occurrence => .delivered occurrence.event

def registration? : Mark → Option Registration
  | registered registration => some registration
  | delivered _ => none

/-- The last registration of a contact counts, however it was declared. -/
def lastRegistration? (contact : Contact) (marks : List Mark) : Option Registration :=
  (marks.filterMap registration?).reverse.find? fun registration =>
    registration.contact.Same contact

/-- A contact that was registered has a reminder of its opening. -/
def ofReminder? (clock : Nat) (now : Instant) (reminder : Reminder) : Option Mark :=
  match reminder.event.boundary with
  | .opening => some (.registered ⟨reminder.event.contact, now, clock⟩)
  | .closing => none

def ofReminders (clock : Nat) (now : Instant) (reminders : List Reminder) : List Mark :=
  reminders.filterMap (ofReminder? clock now)

/-- What is handed out is marked with the clock. -/
def ofOutcome (clock : Nat) (outcome : Option Event) : List Mark :=
  (outcome.map fun event => .delivered ⟨clock, event⟩).toList

theorem map_note_ofReminders (clock : Nat) (now : Instant) (reminders : List Reminder) :
    (ofReminders clock now reminders).map note = Note.ofReminders reminders := by
  unfold ofReminders Note.ofReminders
  rw [List.map_filterMap]
  congr 1
  funext reminder
  unfold ofReminder? Note.ofReminder?
  cases reminder.event.boundary <;> rfl

theorem map_note_ofOutcome (clock : Nat) (outcome : Option Event) :
    (ofOutcome clock outcome).map note = Note.ofOutcome outcome := by
  cases outcome <;> rfl

theorem lastRegistration?_delivered (contact : Contact) (marks : List Mark)
    (occurrence : Occurrence) :
    lastRegistration? contact (marks ++ [.delivered occurrence]) =
      lastRegistration? contact marks := by
  have none : [delivered occurrence].filterMap registration? = [] := rfl
  simp [lastRegistration?, none]

/-- A new registration of a contact is its last one. -/
theorem lastRegistration?_same {contact : Contact} {registration : Registration}
    (same : registration.contact.Same contact) (marks : List Mark) :
    lastRegistration? contact (marks ++ [.registered registration]) = some registration := by
  simp [lastRegistration?, List.filterMap_append, registration?, same]

/-- The registration of another contact does not count. -/
theorem lastRegistration?_other {contact : Contact} {registration : Registration}
    (other : ¬registration.contact.Same contact) (marks : List Mark) :
    lastRegistration? contact (marks ++ [.registered registration]) =
      lastRegistration? contact marks := by
  simp [lastRegistration?, List.filterMap_append, registration?, other]

variable {bound : Nat → Nat → Prop} {marks : List Mark}

/-- An instant meets an event when it is bound to what is due since the contact of the event was
registered, in the declaration that the event carries. -/
def Meets (bound : Nat → Nat → Prop) (marks : List Mark) (event : Event) (instant : Nat) : Prop :=
  ∃ registration, lastRegistration? event.contact marks = some registration ∧
    registration.contact = event.contact ∧ bound (registration.due event.boundary) instant

/-- At every delivery the clock meets the event. -/
def Deliver (bound : Nat → Nat → Prop) (marks : List Mark) : Prop :=
  ∀ before occurrence, before ++ [.delivered occurrence] <+: marks →
    Meets bound before occurrence.event occurrence.instant

/-- A delivery changes nothing about what an event has to meet. -/
theorem meets_delivered {event : Event} {instant : Nat} (occurrence : Occurrence) :
    Meets bound (marks ++ [.delivered occurrence]) event instant ↔
      Meets bound marks event instant := by
  unfold Meets
  rw [lastRegistration?_delivered]

/-- An event meets its bound at every instant that keeps to the bound. -/
theorem Meets.mono {event : Event} {instant other : Nat} (meets : Meets bound marks event instant)
    (kept : ∀ due, bound due instant → bound due other) : Meets bound marks event other := by
  obtain ⟨registration, isLast, sameContact, isBound⟩ := meets
  exact ⟨registration, isLast, sameContact, kept _ isBound⟩

theorem deliver_nil : Deliver bound [] := by
  intro before occurrence isPrefix
  cases before <;> cases List.prefix_nil.mp isPrefix

theorem Deliver.registered (deliver : Deliver bound marks) (registration : Registration) :
    Deliver bound (marks ++ [.registered registration]) := by
  intro before occurrence isPrefix
  rcases List.prefix_concat_iff.mp isPrefix with whole | earlier
  · cases (List.append_inj' whole rfl).2
  · exact deliver before occurrence earlier

/-- A delivery that meets its bound may be added to the others. -/
theorem Deliver.delivered (deliver : Deliver bound marks) {occurrence : Occurrence}
    (meets : Meets bound marks occurrence.event occurrence.instant) :
    Deliver bound (marks ++ [.delivered occurrence]) := by
  intro before other isPrefix
  rcases List.prefix_concat_iff.mp isPrefix with whole | earlier
  · obtain ⟨rfl, isLast⟩ := List.append_inj' whole rfl
    cases isLast
    exact meets
  · exact deliver before other earlier

end Mark

/-- At this time a timer has nothing left to wait for, if it is handed out at its deadlines. -/
def Timer.due (timer : Timer) : Nat := timer.deadline + timer.remaining

/-- A timer is due when its whole delay is over. -/
theorem Timer.due_start (key : Nat) (event : Event) (clock delay : Nat) :
    (Timer.start key event clock delay).due = clock + delay := by
  have bounded : Timer.wait delay ≤ delay := Nat.min_le_left _ _
  unfold Timer.due Timer.start
  simp only
  omega

namespace Agenda

/-- What holds after every contact that is tracked holds after all of them are registered. -/
theorem registerAll_preserves (holds : List Mark → Agenda → Prop) {now : Instant}
    (track : ∀ {marks agenda contact}, holds marks agenda → agenda.accepts contact →
      holds (marks ++ [.registered ⟨contact, now, agenda.clock⟩]) (agenda.track contact now))
    (contacts : List Contact) {marks : List Mark} {agenda : Agenda} (held : holds marks agenda) :
    holds (marks ++ Mark.ofReminders agenda.clock now (agenda.registerAll now contacts).1)
      (agenda.registerAll now contacts).2 := by
  induction contacts generalizing marks agenda with
  | nil =>
      change holds (marks ++ []) agenda
      rw [List.append_nil]
      exact held
  | cons contact rest inductionHypothesis =>
      by_cases accepts : agenda.accepts contact
      · have continued := inductionHypothesis (track held accepts)
        rw [List.append_assoc] at continued
        rw [registerAll_cons_accepted accepts]
        exact continued
      · rw [registerAll_cons_refused accepts]
        exact inductionHypothesis held

/-- A session in which every mark carries the clock. -/
inductive Timed : List Mark → Agenda → Prop where
  | start : Timed [] Agenda.empty
  | register {marks : List Mark} {agenda : Agenda} (timed : Timed marks agenda)
      (set : ContactSet) (now : Instant) :
      Timed (marks ++ Mark.ofReminders agenda.clock now (agenda.register set now).1)
        (agenda.register set now).2
  | registerContact {marks : List Mark} {agenda next : Agenda} {reminders : List Reminder}
      (timed : Timed marks agenda) (contact : Contact) (now : Instant)
      (accepted : agenda.registerContact? contact now = some (reminders, next)) :
      Timed (marks ++ Mark.ofReminders agenda.clock now reminders) next
  | elapse {marks : List Mark} {agenda : Agenda} (timed : Timed marks agenda)
      (milliseconds : Nat) : Timed marks (agenda.advance milliseconds)
  | fire {marks : List Mark} {agenda : Agenda} (timed : Timed marks agenda) (timer : Timer)
      (waits : timer ∈ agenda.timers) (due : timer.deadline ≤ agenda.clock) :
      Timed (marks ++ Mark.ofOutcome agenda.clock (agenda.fire timer).1) (agenda.fire timer).2

/-- Sessions are timed sessions without the readings of the clock. -/
theorem session_iff_timed {notes : List Note} {agenda : Agenda} :
    Session notes agenda ↔ ∃ marks, Timed marks agenda ∧ marks.map Mark.note = notes := by
  constructor
  · intro session
    induction session with
    | start => exact ⟨[], .start, rfl⟩
    | register _ set now inductionHypothesis =>
        obtain ⟨marks, timed, rfl⟩ := inductionHypothesis
        refine ⟨_, timed.register set now, ?_⟩
        rw [List.map_append, Mark.map_note_ofReminders]
    | registerContact _ contact now accepted inductionHypothesis =>
        obtain ⟨marks, timed, rfl⟩ := inductionHypothesis
        refine ⟨_, timed.registerContact contact now accepted, ?_⟩
        rw [List.map_append, Mark.map_note_ofReminders]
    | elapse _ milliseconds inductionHypothesis =>
        obtain ⟨marks, timed, rfl⟩ := inductionHypothesis
        exact ⟨marks, timed.elapse milliseconds, rfl⟩
    | fire _ timer waits due inductionHypothesis =>
        obtain ⟨marks, timed, rfl⟩ := inductionHypothesis
        refine ⟨_, timed.fire timer waits due, ?_⟩
        rw [List.map_append, Mark.map_note_ofOutcome]
  · rintro ⟨marks, timed, rfl⟩
    induction timed with
    | start => exact .start
    | register _ set now inductionHypothesis =>
        rw [List.map_append, Mark.map_note_ofReminders]
        exact inductionHypothesis.register set now
    | registerContact _ contact now accepted inductionHypothesis =>
        rw [List.map_append, Mark.map_note_ofReminders]
        exact inductionHypothesis.registerContact contact now accepted
    | elapse _ milliseconds inductionHypothesis => exact inductionHypothesis.elapse milliseconds
    | fire _ timer waits due inductionHypothesis =>
        rw [List.map_append, Mark.map_note_ofOutcome]
        exact inductionHypothesis.fire timer waits due

/-- Every timer waits for what is due since its contact was registered. -/
def Meets (bound : Nat → Nat → Prop) (marks : List Mark) (agenda : Agenda) : Prop :=
  ∀ timer ∈ agenda.timers, Mark.Meets bound marks timer.event timer.due

section Meeting

variable {bound : Nat → Nat → Prop} {marks : List Mark} {agenda : Agenda}

/-- The timers of a tracked contact meet their bounds when the others do. -/
theorem Meets.track (reflexive : ∀ due, bound due due) (sound : agenda.Sound)
    (meets : agenda.Meets bound marks) {contact : Contact} (accepts : agenda.accepts contact)
    (now : Instant) :
    (agenda.track contact now).Meets bound
      (marks ++ [.registered ⟨contact, now, agenda.clock⟩]) := by
  intro timer member
  rcases mem_timers_track member with old | ⟨key, boundary, rfl⟩
  · obtain ⟨phase, tracked, -⟩ := sound.owner old
    have fresh := fresh_of_accepts accepts _ (List.mem_map_of_mem tracked)
    have other : ¬(Registration.mk contact now agenda.clock).contact.Same timer.event.contact := by
      intro same
      exact fresh same.symm
    unfold Mark.Meets
    rw [Mark.lastRegistration?_other other]
    exact meets timer old
  · have isLast := Mark.lastRegistration?_same (.refl (Registration.mk contact now
      agenda.clock).contact) marks
    refine ⟨_, isLast, rfl, ?_⟩
    rw [Timer.due_start]
    exact reflexive _

/-- Only the timer that is handed out may wait for longer than before. -/
theorem Fired.meets {next : Agenda} {timer : Timer} {outcome : Option Event}
    (fired : agenda.Fired timer outcome next) (meets : agenda.Meets bound marks)
    (waits : timer ∈ agenda.timers)
    (kept : ∀ due, bound due timer.due → bound due (agenda.clock + timer.remaining)) :
    next.Meets bound marks := by
  intro other member
  rcases fired.mem_timers member with old | ⟨key, rfl⟩
  · exact meets other old
  · rw [Timer.due_start]
    exact (meets timer waits).mono kept

end Meeting

/-- What is handed out is due, also an opening that was overtaken by its closing. -/
theorem Fired.due_le {marks : List Mark} {agenda next : Agenda} {timer : Timer}
    {outcome : Option Event} (fired : agenda.Fired timer outcome next)
    (meets : agenda.Meets (· ≤ ·) marks) (waits : timer ∈ agenda.timers)
    (due : timer.deadline ≤ agenda.clock) {event : Event} (delivered : outcome = some event) :
    Mark.Meets (· ≤ ·) marks event agenda.clock := by
  obtain ⟨registration, isLast, sameContact, isBound⟩ := meets timer waits
  unfold Timer.due at isBound
  cases fired with
  | waits => cases delivered
  | opens waited =>
      cases delivered
      exact ⟨registration, isLast, sameContact, by omega⟩
  | untracked => cases delivered
  | opensFirst waited isClosing =>
      cases delivered
      have ordered := registration.due_opening_le
      rw [isClosing] at isBound
      exact ⟨registration, isLast, sameContact, by simp only; omega⟩
  | closes waited =>
      cases delivered
      exact ⟨registration, isLast, sameContact, by omega⟩

/-- In a session without hurry no timer ends its waits and no event is handed out before it is
due. -/
structure Unhurried (marks : List Mark) (agenda : Agenda) : Prop where
  sound : agenda.Sound
  meets : agenda.Meets (· ≤ ·) marks
  deliver : Mark.Deliver (· ≤ ·) marks

/-- An agenda does not hurry because a contact is tracked. -/
theorem Unhurried.track {marks : List Mark} {agenda : Agenda} {contact : Contact} {now : Instant}
    (unhurried : agenda.Unhurried marks) (accepts : agenda.accepts contact) :
    (agenda.track contact now).Unhurried
      (marks ++ [.registered ⟨contact, now, agenda.clock⟩]) where
  sound := (unhurried.sound.track accepts now).1
  meets := unhurried.meets.track Nat.le_refl unhurried.sound accepts now
  deliver := unhurried.deliver.registered _

/-- An agenda does not hurry because a due timer is handed out. -/
theorem Unhurried.fire {marks : List Mark} {agenda : Agenda} (unhurried : agenda.Unhurried marks)
    {timer : Timer} (waits : timer ∈ agenda.timers) (due : timer.deadline ≤ agenda.clock) :
    (agenda.fire timer).2.Unhurried
      (marks ++ Mark.ofOutcome agenda.clock (agenda.fire timer).1) := by
  have fired := agenda.fired timer
  have sound := (unhurried.sound.fire waits).1
  have later := fired.meets unhurried.meets waits fun instant isBound => by
    unfold Timer.due at isBound
    omega
  cases delivered : (agenda.fire timer).1 with
  | none =>
      change Unhurried (marks ++ []) _
      rw [List.append_nil]
      exact ⟨sound, later, unhurried.deliver⟩
  | some event =>
      have onTime := fired.due_le unhurried.meets waits due delivered
      refine ⟨sound, fun other member => ?_, unhurried.deliver.delivered onTime⟩
      exact (Mark.meets_delivered _).mpr (later other member)

/-- However the clock jumps, sessions do not hurry. -/
theorem Timed.unhurried {marks : List Mark} {agenda : Agenda} (timed : Timed marks agenda) :
    agenda.Unhurried marks := by
  induction timed with
  | start => exact ⟨sound_empty, by simp [Meets, Agenda.empty], Mark.deliver_nil⟩
  | register _ set now unhurried =>
      exact registerAll_preserves Unhurried Unhurried.track set.members unhurried
  | registerContact _ contact now accepted unhurried =>
      obtain ⟨accepts, rfl, rfl⟩ := registerContact?_eq_some accepted
      exact unhurried.track accepts
  | @elapse _ agenda _ _ unhurried =>
      exact ⟨unhurried.sound.advance _, unhurried.meets, unhurried.deliver⟩
  | fire _ timer waits due unhurried => exact unhurried.fire waits due

end Agenda

end ContactPlan
