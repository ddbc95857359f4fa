import ContactPlan.Proofs.Agenda.Fire

namespace ContactPlan

/-- A contact that was registered has a reminder of its opening. -/
def Note.ofReminder? (reminder : Reminder) : Option Note :=
  match reminder.event.boundary with
  | .opening => some (.accepted reminder.event.contact)
  | .closing => none

def Note.ofReminders (reminders : List Reminder) : List Note :=
  reminders.filterMap Note.ofReminder?

theorem Note.ofReminders_append (first second : List Reminder) :
    ofReminders (first ++ second) = ofReminders first ++ ofReminders second :=
  List.filterMap_append

/-- The two reminders of a contact note its acceptance once. -/
theorem Note.ofReminders_reminders (contact : Contact) (now : Instant) :
    ofReminders (contact.reminders now) = [.accepted contact] := rfl

/-- Registering hands out no event. -/
theorem Note.events_ofReminders (reminders : List Reminder) :
    events (ofReminders reminders) = [] := by
  apply List.filterMap_eq_nil_iff.mpr
  intro note member
  obtain ⟨⟨⟨contact, boundary⟩, delay⟩, _, isNote⟩ := List.mem_filterMap.mp member
  cases boundary with
  | opening =>
      cases isNote
      rfl
  | closing => cases isNote

namespace Agenda

/-- A contact is tracked when one of its declarations is. -/
theorem tracks_iff {agenda : Agenda} {contact : Contact} :
    agenda.tracks contact ↔ ∃ tracked ∈ agenda.tracked, tracked.contact.Same contact := by
  simp [tracks, phase?, List.find?_isSome]

/-- An accepted contact is valid and not tracked. -/
theorem accepts_iff {agenda : Agenda} {contact : Contact} :
    agenda.accepts contact ↔ contact.isValid ∧ ¬agenda.tracks contact := by
  simp [accepts]

/-- An accepted contact has no standing. -/
theorem fresh_of_accepts {agenda : Agenda} {contact : Contact} (accepts : agenda.accepts contact) :
    ∀ standing ∈ agenda.standings, ¬standing.contact.Same contact := by
  intro standing member same
  obtain ⟨tracked, isTracked, rfl⟩ := List.mem_map.mp member
  exact (accepts_iff.mp accepts).2 (tracks_iff.mpr ⟨tracked, isTracked, same⟩)

/-- A contact that is tracked has not opened. -/
theorem standings_track (agenda : Agenda) (contact : Contact) (now : Instant) :
    (agenda.track contact now).standings = agenda.standings ++ [⟨contact, false⟩] := by
  change (agenda.tracked ++ [_]).map Tracked.standing = _
  rw [List.map_append]
  rfl

/-- An accepted contact gets a timer for each of its events. -/
theorem Sound.track {agenda : Agenda} (sound : agenda.Sound) {contact : Contact}
    (accepts : agenda.accepts contact) (now : Instant) :
    (agenda.track contact now).Sound ∧
      Standing.Turn agenda.standings [.accepted contact] (agenda.track contact now).standings := by
  have fresh := fresh_of_accepts accepts
  let opening := contact.reminder .opening now
  let closing := contact.reminder .closing now
  let once := agenda.arm opening.event opening.delay
  let twice := once.arm closing.event closing.delay
  have keyed : twice.Keyed := (sound.keyed.arm _ _).arm _ _
  constructor
  · refine ⟨⟨keyed.distinct, keyed.below⟩, ?_, ?_, ?_, ?_⟩
    · rw [standings_track]
      exact sound.distinct.append_fresh fresh
    · intro tracked member
      rcases List.mem_append.mp member with old | new
      · exact sound.agrees tracked old
      · cases List.mem_singleton.mp new
        rfl
    · have armed : twice.events.Perm (closing.event :: opening.event :: agenda.events) :=
        (once.events_arm _ _).trans ((agenda.events_arm _ _).cons _)
      change twice.events.Perm ((agenda.tracked ++ [_]).flatMap Tracked.ahead)
      rw [List.flatMap_append, List.flatMap_singleton, Tracked.ahead_awaiting]
      have moved : ([opening.event, closing.event] ++ agenda.tracked.flatMap Tracked.ahead).Perm
          (agenda.tracked.flatMap Tracked.ahead ++ [opening.event, closing.event]) :=
        List.perm_append_comm
      exact ((armed.trans (.swap _ _ _)).trans ((sound.ahead.cons _).cons _)).trans moved
    · intro tracked member key awaiting
      rcases List.mem_append.mp member with old | new
      · have holds := (sound.openings tracked old key awaiting).resolve_left List.not_mem_nil
        exact .inr ((holds.arm opening.event opening.delay).arm closing.event closing.delay)
      · cases List.mem_singleton.mp new
        cases awaiting
        exact .inr ((agenda.holds_arm opening.event opening.delay).arm closing.event closing.delay)
  · rw [standings_track]
    exact .accept fresh

/-- A registration that succeeds tracks the contact and returns its reminders. -/
theorem registerContact?_eq_some {agenda next : Agenda} {contact : Contact} {now : Instant}
    {reminders : List Reminder}
    (accepted : agenda.registerContact? contact now = some (reminders, next)) :
    agenda.accepts contact ∧ reminders = contact.reminders now ∧
      next = agenda.track contact now := by
  unfold registerContact? at accepted
  by_cases accepts : agenda.accepts contact
  · rw [if_pos accepts] at accepted
    cases accepted
    exact ⟨accepts, rfl, rfl⟩
  · rw [if_neg accepts] at accepted
    cases accepted

theorem registerAll_cons (agenda : Agenda) (contact : Contact) (now : Instant)
    (rest : List Contact) :
    agenda.registerAll now (contact :: rest) =
      match agenda.registerContact? contact now with
      | some (reminders, next) =>
          (reminders ++ (next.registerAll now rest).1, (next.registerAll now rest).2)
      | none => agenda.registerAll now rest := rfl

/-- An accepted contact is tracked before the others come. -/
theorem registerAll_cons_accepted {agenda : Agenda} {contact : Contact}
    (accepts : agenda.accepts contact) (now : Instant) (rest : List Contact) :
    agenda.registerAll now (contact :: rest) =
      (contact.reminders now ++ ((agenda.track contact now).registerAll now rest).1,
        ((agenda.track contact now).registerAll now rest).2) := by
  rw [registerAll_cons, registerContact?, if_pos accepts]

theorem registerAll_cons_refused {agenda : Agenda} {contact : Contact}
    (refused : ¬agenda.accepts contact) (now : Instant) (rest : List Contact) :
    agenda.registerAll now (contact :: rest) = agenda.registerAll now rest := by
  rw [registerAll_cons, registerContact?, if_neg refused]

/-- The notes agree with the ledger, and the ledger with the timers. -/
structure Accounts (agenda : Agenda) (notes : List Note) : Prop where
  sound : agenda.Sound
  balanced : Standing.Balanced notes agenda.standings

/-- The accounts are kept while contacts are registered one after the other. -/
theorem Accounts.registerAll {agenda : Agenda} {notes : List Note}
    (accounts : agenda.Accounts notes) (now : Instant) (contacts : List Contact) :
    (agenda.registerAll now contacts).2.Accounts
      (notes ++ Note.ofReminders (agenda.registerAll now contacts).1) := by
  induction contacts generalizing agenda notes with
  | nil =>
      change agenda.Accounts (notes ++ [])
      rw [List.append_nil]
      exact accounts
  | cons contact rest inductionHypothesis =>
      by_cases accepts : agenda.accepts contact
      · obtain ⟨sound, turn⟩ := accounts.sound.track accepts now
        have continued := inductionHypothesis ⟨sound, accounts.balanced.turn turn⟩
        rw [registerAll_cons_accepted accepts, Note.ofReminders_append,
          Note.ofReminders_reminders, ← List.append_assoc]
        exact continued
      · rw [registerAll_cons_refused accepts]
        exact inductionHypothesis accounts

/-- A session notes what calls return.
A call for the next event hands out due timers until one of them is an event. -/
inductive Session : List Note → Agenda → Prop where
  | start : Session [] Agenda.empty
  | register {notes : List Note} {agenda : Agenda} (session : Session notes agenda)
      (set : ContactSet) (now : Instant) :
      Session (notes ++ Note.ofReminders (agenda.register set now).1) (agenda.register set now).2
  | registerContact {notes : List Note} {agenda next : Agenda} {reminders : List Reminder}
      (session : Session notes agenda) (contact : Contact) (now : Instant)
      (accepted : agenda.registerContact? contact now = some (reminders, next)) :
      Session (notes ++ Note.ofReminders reminders) next
  | elapse {notes : List Note} {agenda : Agenda} (session : Session notes agenda)
      (milliseconds : Nat) : Session notes (agenda.advance milliseconds)
  | fire {notes : List Note} {agenda : Agenda} (session : Session notes agenda) (timer : Timer)
      (waits : timer ∈ agenda.timers) (due : timer.deadline ≤ agenda.clock) :
      Session (notes ++ Note.ofOutcome (agenda.fire timer).1) (agenda.fire timer).2

/-- Nothing but the clock changes when it moves on. -/
theorem Sound.advance {agenda : Agenda} (sound : agenda.Sound) (milliseconds : Nat) :
    (agenda.advance milliseconds).Sound :=
  ⟨⟨sound.keyed.distinct, sound.keyed.below⟩, sound.distinct, sound.agrees, sound.ahead,
    sound.openings⟩

/-- Every session keeps the accounts. -/
theorem Session.accounts {notes : List Note} {agenda : Agenda} (session : Session notes agenda) :
    agenda.Accounts notes := by
  induction session with
  | start => exact ⟨sound_empty, Standing.balanced_nil⟩
  | register _ set now accounts => exact accounts.registerAll now set.members
  | registerContact _ contact now accepted accounts =>
      obtain ⟨accepts, rfl, rfl⟩ := registerContact?_eq_some accepted
      obtain ⟨sound, turn⟩ := accounts.sound.track accepts now
      exact ⟨sound, accounts.balanced.turn turn⟩
  | elapse _ _ accounts =>
      exact ⟨accounts.sound.advance _, accounts.balanced⟩
  | fire _ _ waits _ accounts =>
      obtain ⟨sound, turn⟩ := accounts.sound.fire waits
      exact ⟨sound, accounts.balanced.turn turn⟩

/-- A call for the next event waits while the clock moves on and due timers come in any order. -/
inductive Awaits : Agenda → Event → Agenda → Prop where
  | elapse {agenda final : Agenda} {event : Event} (milliseconds : Nat)
      (rest : Awaits (agenda.advance milliseconds) event final) : Awaits agenda event final
  | wait {agenda next final : Agenda} {event : Event} (timer : Timer)
      (waits : timer ∈ agenda.timers) (due : timer.deadline ≤ agenda.clock)
      (fired : agenda.fire timer = (none, next)) (rest : Awaits next event final) :
      Awaits agenda event final
  | done {agenda final : Agenda} {event : Event} (timer : Timer)
      (waits : timer ∈ agenda.timers) (due : timer.deadline ≤ agenda.clock)
      (fired : agenda.fire timer = (some event, final)) : Awaits agenda event final

/-- A call for the next event is a part of a session. -/
theorem Session.awaits {notes : List Note} {agenda : Agenda} (session : Session notes agenda)
    {event : Event} {final : Agenda} (awaits : Awaits agenda event final) :
    Session (notes ++ [.delivered event]) final := by
  induction awaits generalizing notes with
  | elapse milliseconds _ inductionHypothesis =>
      exact inductionHypothesis (session.elapse milliseconds)
  | wait timer waits due fired _ inductionHypothesis =>
      have continued := session.fire timer waits due
      rw [fired] at continued
      exact inductionHypothesis (List.append_nil notes ▸ continued)
  | done timer waits due fired =>
      have continued := session.fire timer waits due
      rw [fired] at continued
      exact continued

/-- The clock reaches an instant by advancing to it. -/
theorem reach_eq_advance (agenda : Agenda) (instant : Nat) :
    agenda.reach instant = agenda.advance (instant - agenda.clock) := by
  unfold Agenda.reach advance
  congr 1
  omega

theorem next?_nil {agenda : Agenda} (none : agenda.timers = []) : agenda.next? = .none := by
  rw [Agenda.next?]
  split
  · rfl
  next head => cases none.symm.trans head

/-- The first timer decides about the next event, or it waits on. -/
theorem next?_cons {agenda : Agenda} {timer : Timer} {rest : List Timer}
    (head : agenda.timers = timer :: rest) :
    agenda.next? =
      match (agenda.fireAt timer).1 with
      | some event => some (event, (agenda.fireAt timer).2)
      | none => (agenda.fireAt timer).2.next? := by
  rw [Agenda.next?]
  split
  next none => cases none.symm.trans head
  next other _ isHead =>
    cases isHead.symm.trans head
    rfl

theorem runTo_nil {agenda : Agenda} (none : agenda.timers = []) (limit : Nat) :
    agenda.runTo limit = ([], agenda.reach limit) := by
  rw [runTo]
  split
  · rfl
  next head => cases none.symm.trans head

/-- A run hands out the first timer if it is due by the limit. -/
theorem runTo_cons {agenda : Agenda} {timer : Timer} {rest : List Timer}
    (head : agenda.timers = timer :: rest) (limit : Nat) :
    agenda.runTo limit =
      if timer.deadline ≤ limit then
        let (occurrences, final) := (agenda.fireAt timer).2.runTo limit
        let occurrence := (agenda.fireAt timer).1.map
          (Occurrence.mk (max agenda.clock timer.deadline))
        (occurrence.toList ++ occurrences, final)
      else ([], agenda.reach limit) := by
  rw [runTo]
  split
  next none => cases none.symm.trans head
  next other _ isHead =>
    cases isHead.symm.trans head
    rfl

/-- The first timer of the agenda is due when the clock has reached its deadline. -/
theorem due_advance {agenda : Agenda} {timer : Timer} {rest : List Timer}
    (head : agenda.timers = timer :: rest) :
    timer ∈ (agenda.advance (timer.deadline - agenda.clock)).timers ∧
      timer.deadline ≤ (agenda.advance (timer.deadline - agenda.clock)).clock := by
  constructor
  · change timer ∈ agenda.timers
    rw [head]
    exact List.mem_cons_self
  · change timer.deadline ≤ agenda.clock + (timer.deadline - agenda.clock)
    omega

/-- The next event of the agenda is one that a call can wait for. -/
theorem awaits_next? {agenda final : Agenda} {event : Event}
    (found : agenda.next? = some (event, final)) : Awaits agenda event final := by
  induction agenda using Agenda.next?.induct with
  | case1 agenda none =>
      rw [next?_nil none] at found
      cases found
  | case2 agenda timer rest head other fired =>
      rw [next?_cons head, fired] at found
      cases found
      obtain ⟨waits, due⟩ := due_advance head
      refine .elapse _ (.done timer waits due ?_)
      rw [← reach_eq_advance]
      exact Prod.ext fired rfl
  | case3 agenda timer rest head fired inductionHypothesis =>
      rw [next?_cons head, fired] at found
      obtain ⟨waits, due⟩ := due_advance head
      refine .elapse _ (.wait timer waits due ?_ (inductionHypothesis found))
      rw [← reach_eq_advance]
      exact Prod.ext fired rfl

/-- In every session openings and closings of one contact take turns, an opening comes first, and
the notes on it are a beginning of the rounds of what was accepted.
What is pending has been accepted and not closed. -/
theorem Session.events_take_turns {notes : List Note} {agenda : Agenda}
    (session : Session notes agenda) :
    (∀ (contact : Contact) (index : Nat) (event : Event),
      ((Note.events notes).filter fun event => event.contact.Same contact)[index]? = some event →
        event.boundary = Boundary.inTurn index) ∧
    (∀ contact : Contact, Note.about contact notes <+:
      Note.rounds (Note.contacts (Note.about contact notes))) ∧
    agenda.pending + Note.closings notes = (Note.contacts notes).length := by
  have balanced := session.accounts.balanced
  refine ⟨fun _ _ _ found => balanced.boundary_eq found, balanced.about_prefix_rounds, ?_⟩
  have sameLength : agenda.pending = agenda.standings.length := by
    rw [pending, standings, List.length_map]
  rw [sameLength]
  exact balanced.pending

/-- The window of this contact has passed when it is registered at ten seconds. -/
def passed : Contact :=
  { start := 1000
    duration := 500
    first := ⟨10, ⟨1⟩⟩
    second := ⟨20, ⟨2⟩⟩ }

/-- The closing comes first, the contact opens nevertheless, and then it is declared again from
the other side. -/
theorem Session.events_take_turns_closing_first :
    ∃ notes agenda,
      notes = [.accepted passed, .delivered ⟨passed, .opening⟩, .delivered ⟨passed, .closing⟩,
        .accepted passed.flip] ∧
      Session notes agenda ∧
      (Event.mk passed .closing).boundary = Boundary.inTurn 1 ∧
      Note.about passed notes <+: Note.rounds [passed, passed.flip] ∧
      agenda.pending + Note.closings notes = 2 := by
  have accepted := Session.start.registerContact passed 10000 rfl
  have opened := accepted.fire ⟨1, ⟨passed, .closing⟩, 0, 0⟩ (by decide) (by decide)
  have closed := opened.fire ⟨2, ⟨passed, .closing⟩, 0, 0⟩ (by decide) (by decide)
  have again := closed.registerContact passed.flip 10000 rfl
  obtain ⟨turns, rounds, pending⟩ := again.events_take_turns
  exact ⟨_, _, rfl, again, turns passed 1 _ rfl, rounds passed, pending⟩

end Agenda

end ContactPlan
