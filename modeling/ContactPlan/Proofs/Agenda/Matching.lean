import ContactPlan.Proofs.Agenda.Tracking

namespace ContactPlan

namespace Agenda

/-- The timers for a boundary of a contact, however the contact was declared. -/
def timersOf (agenda : Agenda) (contact : Contact) (boundary : Boundary) : List Timer :=
  agenda.timers.filter fun timer =>
    timer.event.contact.Same contact && timer.event.boundary = boundary

/-- The timers of a contact may carry either of its declarations. -/
theorem mem_timersOf {agenda : Agenda} {contact : Contact} {boundary : Boundary} {timer : Timer} :
    timer ∈ agenda.timersOf contact boundary ↔
      timer ∈ agenda.timers ∧ timer.event.contact.Same contact ∧
        timer.event.boundary = boundary := by
  simp [timersOf]

/-- The timers of a tracked contact wait for what is ahead of it. -/
theorem Sound.perm_timersOf {agenda : Agenda} (sound : agenda.Sound) {tracked : Tracked}
    (member : tracked ∈ agenda.tracked) (boundary : Boundary) :
    ((agenda.timersOf tracked.contact boundary).map Timer.event).Perm
      (tracked.ahead.filter fun event => event.boundary = boundary) := by
  let wanted (event : Event) : Bool :=
    event.contact.Same tracked.contact && event.boundary = boundary
  obtain ⟨before, after, split⟩ := List.append_of_mem member
  have others := sound.others split
  have noneOf (part : List Tracked) (within : ∀ other ∈ part, other ∈ before ++ after) :
      (part.flatMap Tracked.ahead).filter wanted = [] := by
    apply List.filter_eq_nil_iff.mpr
    intro event isAhead
    obtain ⟨other, isOther, isEvent⟩ := List.mem_flatMap.mp isAhead
    have different := others other (within other isOther)
    simp [wanted, Tracked.contact_of_mem_ahead isEvent, different]
  have own : tracked.ahead.filter wanted =
      tracked.ahead.filter fun event => event.boundary = boundary := by
    apply List.filter_congr
    intro event isEvent
    simp [wanted, Tracked.contact_of_mem_ahead isEvent, Contact.Same.refl]
  have events : (agenda.timersOf tracked.contact boundary).map Timer.event =
      agenda.events.filter wanted := by
    rw [events, List.filter_map]
    rfl
  rw [events]
  refine (sound.ahead.filter wanted).trans ?_
  rw [split, List.flatMap_append, List.flatMap_cons, List.filter_append, List.filter_append,
    noneOf before fun _ => List.mem_append_left _, noneOf after fun _ => List.mem_append_right _,
    own, List.nil_append, List.append_nil]

/-- One event is waited for by one timer. -/
theorem eq_singleton_of_perm {timers : List Timer} {event : Event}
    (perm : (timers.map Timer.event).Perm [event]) :
    ∃ timer, timers = [timer] ∧ timer.event = event := by
  obtain ⟨timer, rest, rfl, rfl, none⟩ := List.map_eq_cons_iff.mp (List.perm_singleton.mp perm)
  exact ⟨timer, by rw [List.map_eq_nil_iff.mp none], rfl⟩

/-- Every tracked contact has exactly one timer for its closing. -/
theorem Sound.closing_timer {agenda : Agenda} (sound : agenda.Sound) {contact : Contact}
    {phase : Phase} (member : ⟨contact, phase⟩ ∈ agenda.tracked) :
    ∃ timer, agenda.timersOf contact .closing = [timer] ∧ timer.event = ⟨contact, .closing⟩ := by
  apply eq_singleton_of_perm
  refine (sound.perm_timersOf member .closing).trans ?_
  unfold Tracked.ahead
  split <;> exact .rfl

/-- A contact that has not opened knows the only timer for its opening. -/
theorem Sound.opening_timer {agenda : Agenda} (sound : agenda.Sound) {contact : Contact}
    {key : Nat} (member : ⟨contact, .awaiting key⟩ ∈ agenda.tracked) :
    ∃ timer, agenda.timersOf contact .opening = [timer] ∧ timer.event = ⟨contact, .opening⟩ ∧
      timer.key = key := by
  obtain ⟨timer, one, isOpening⟩ := eq_singleton_of_perm (sound.perm_timersOf member .opening)
  obtain ⟨known, waits, rfl, isEvent⟩ :=
    (sound.openings _ member key rfl).resolve_left List.not_mem_nil
  have isOne : known ∈ agenda.timersOf contact .opening := by
    simp [mem_timersOf, waits, isEvent, Contact.Same.refl]
  rw [one, List.mem_singleton] at isOne
  exact ⟨timer, one, isOpening, by rw [isOne]⟩

/-- No timer waits for the opening of a contact that has opened. -/
theorem Sound.no_opening_timer {agenda : Agenda} (sound : agenda.Sound) {contact : Contact}
    (member : ⟨contact, .opened⟩ ∈ agenda.tracked) : agenda.timersOf contact .opening = [] := by
  have none := (sound.perm_timersOf member .opening).eq_nil
  exact List.map_eq_nil_iff.mp none

/-- Every timer belongs to a tracked contact, which knows it if it is for the opening. -/
theorem Sound.owner {agenda : Agenda} (sound : agenda.Sound) {timer : Timer}
    (waits : timer ∈ agenda.timers) :
    ∃ phase, ⟨timer.event.contact, phase⟩ ∈ agenda.tracked ∧
      (timer.event.boundary = .opening → phase = .awaiting timer.key) := by
  have isEvent : timer.event ∈ agenda.events := List.mem_map_of_mem waits
  obtain ⟨⟨contact, phase⟩, member, isAhead⟩ :=
    List.mem_flatMap.mp (sound.ahead.mem_iff.mp isEvent)
  have sameContact : timer.event.contact = contact := Tracked.contact_of_mem_ahead isAhead
  refine ⟨phase, sameContact ▸ member, fun opens => ?_⟩
  rcases (sound.agrees _ member).cases with ⟨key, rfl⟩ | rfl
  · obtain ⟨only, one, -, isKey⟩ := sound.opening_timer member
    have isOnly : timer ∈ agenda.timersOf contact .opening := by
      simp [mem_timersOf, waits, sameContact, opens, Contact.Same.refl]
    rw [one, List.mem_singleton] at isOnly
    rw [isOnly, isKey]
  · rw [List.mem_singleton.mp isAhead] at opens
    cases opens

/-- Nothing waits exactly when nothing is tracked. -/
theorem Sound.isIdle_iff {agenda : Agenda} (sound : agenda.Sound) :
    agenda.isIdle ↔ agenda.pending = 0 := by
  rw [isIdle, List.isEmpty_iff, pending, List.length_eq_zero_iff]
  constructor
  · intro idle
    apply List.eq_nil_iff_forall_not_mem.mpr
    intro tracked member
    obtain ⟨timer, one, -⟩ := sound.closing_timer member
    have isTimer : timer ∈ agenda.timersOf tracked.contact .closing := by
      rw [one]
      exact List.mem_cons_self
    rw [timersOf, idle] at isTimer
    cases isTimer
  · intro none
    apply List.eq_nil_iff_forall_not_mem.mpr
    intro timer waits
    obtain ⟨phase, member, -⟩ := sound.owner waits
    rw [none] at member
    cases member

/-- The contact of a closing that is handed out is tracked. -/
theorem Sound.tracks_disarm {agenda : Agenda} (sound : agenda.Sound) {timer : Timer}
    (waits : timer ∈ agenda.timers) :
    (agenda.disarm timer.key).tracks timer.event.contact := by
  obtain ⟨phase, member, -⟩ := sound.owner waits
  exact tracks_iff.mpr ⟨_, member, .refl _⟩

/-- The timers agree with the contacts that are tracked.
A contact that has not opened knows the only timer for its opening, and one that has opened knows
none. -/
structure Matched (agenda : Agenda) : Prop where
  awaiting : ∀ tracked ∈ agenda.tracked, tracked.phase.hasOpened = false →
    (∃ timer, agenda.timersOf tracked.contact .opening = [timer] ∧
      timer.event = ⟨tracked.contact, .opening⟩ ∧ tracked.phase.opening? = some timer.key) ∧
    ∃ timer, agenda.timersOf tracked.contact .closing = [timer] ∧
      timer.event = ⟨tracked.contact, .closing⟩
  opened : ∀ tracked ∈ agenda.tracked, tracked.phase.hasOpened →
    tracked.phase.opening? = none ∧ agenda.timersOf tracked.contact .opening = [] ∧
    ∃ timer, agenda.timersOf tracked.contact .closing = [timer] ∧
      timer.event = ⟨tracked.contact, .closing⟩
  owned : ∀ timer ∈ agenda.timers, ∃ phase, ⟨timer.event.contact, phase⟩ ∈ agenda.tracked ∧
    (timer.event.boundary = .opening → phase = .awaiting timer.key)

/-- In a sound agenda timers and contacts agree. -/
theorem Sound.matched {agenda : Agenda} (sound : agenda.Sound) : agenda.Matched where
  awaiting := by
    rintro ⟨contact, phase⟩ member notOpened
    rcases (sound.agrees _ member).cases with ⟨key, rfl⟩ | rfl
    · obtain ⟨timer, one, isOpening, rfl⟩ := sound.opening_timer member
      exact ⟨⟨timer, one, isOpening, rfl⟩, sound.closing_timer member⟩
    · cases notOpened
  opened := by
    rintro ⟨contact, phase⟩ member hasOpened
    rcases (sound.agrees _ member).cases with ⟨key, rfl⟩ | rfl
    · cases hasOpened
    · exact ⟨rfl, sound.no_opening_timer member, sound.closing_timer member⟩
  owned _ waits := sound.owner waits

/-- A timer for an opening is the one that its contact waits for, so that no opening is armed again
for a contact that has opened. -/
theorem Sound.awaits_opening {agenda : Agenda} (sound : agenda.Sound) {timer : Timer}
    (waits : timer ∈ agenda.timers) (opens : timer.event.boundary = .opening) :
    (agenda.disarm timer.key).phase? timer.event.contact = some (.awaiting timer.key) := by
  obtain ⟨phase, member, known⟩ := sound.owner waits
  obtain ⟨before, after, split⟩ := List.append_of_mem member
  rw [known opens] at split
  exact (Lacks.disarm sound waits).phase?_split split

end Agenda

/-- The first wait of a timer takes a year at most. -/
theorem Timer.deadline_start_le (key : Nat) (event : Event) (clock delay : Nat) :
    (Timer.start key event clock delay).deadline ≤ clock + Timer.longestWait :=
  Nat.add_le_add_left (Nat.min_le_right _ _) clock

namespace Agenda

/-- No timer waits longer than a year at once. -/
theorem Session.deadline_le {notes : List Note} {agenda : Agenda} (session : Session notes agenda) :
    ∀ timer ∈ agenda.timers, timer.deadline ≤ agenda.clock + Timer.longestWait := by
  induction session with
  | start => simp [Agenda.empty]
  | @register _ agenda _ set now inductionHypothesis =>
      intro timer member
      change timer.deadline ≤ (agenda.registerAll now set.members).2.clock + _
      rw [clock_registerAll]
      rcases mem_timers_registerAll member with old | ⟨key, contact, boundary, rfl⟩
      · exact inductionHypothesis timer old
      · exact Timer.deadline_start_le _ _ _ _
  | registerContact _ contact now accepted inductionHypothesis =>
      obtain ⟨-, -, rfl⟩ := registerContact?_eq_some accepted
      intro timer member
      rcases mem_timers_track member with old | ⟨key, boundary, rfl⟩
      · exact inductionHypothesis timer old
      · exact Timer.deadline_start_le _ _ _ _
  | elapse _ milliseconds inductionHypothesis =>
      intro timer member
      have before := inductionHypothesis timer member
      simp only [advance]
      omega
  | @fire _ agenda _ timer _ _ inductionHypothesis =>
      intro other member
      rw [(agenda.fired timer).clock_eq]
      rcases (agenda.fired timer).mem_timers member with old | ⟨key, rfl⟩
      · exact inductionHypothesis other old
      · exact Timer.deadline_start_le _ _ _ _

/-- At any time the timers agree with the tracked contacts, so that nothing waits exactly when
nothing is pending.
A closing never comes without its contact, the opening that it overtakes has a timer to be taken
off, and no timer waits longer than a year at once. -/
theorem Session.timers_match {notes : List Note} {agenda : Agenda}
    (session : Session notes agenda) :
    agenda.Matched ∧ (agenda.isIdle ↔ agenda.pending = 0) ∧
    (∀ timer ∈ agenda.timers, timer.event.boundary = .closing →
      (agenda.disarm timer.key).tracks timer.event.contact ∧
      ∀ hasOpened key,
        (agenda.disarm timer.key).phase? timer.event.contact = some ⟨hasOpened, some key⟩ →
        (agenda.disarm timer.key).Holds key ⟨timer.event.contact, .opening⟩) ∧
    ∀ timer ∈ agenda.timers, timer.deadline ≤ agenda.clock + Timer.longestWait := by
  have sound := session.accounts.sound
  refine ⟨sound.matched, sound.isIdle_iff, fun timer waits closes => ?_, session.deadline_le⟩
  refine ⟨sound.tracks_disarm waits, fun hasOpened key awaiting => ?_⟩
  have lacks := Lacks.disarm sound waits
  have isClosing : timer.event = ⟨timer.event.contact, .closing⟩ := by rw [← closes]
  rw [isClosing] at lacks
  exact lacks.holds_opening awaiting

/-- This contact begins more than a year after the clock reads zero. -/
def remote : Contact :=
  { start := 40000000000
    duration := 60000
    first := ⟨40, ⟨4⟩⟩
    second := ⟨30, ⟨3⟩⟩ }

/-- One opening has been armed again after a year, and another one has been overtaken. -/
theorem Session.timers_match_rearmed :
    ∃ notes agenda, Session notes agenda ∧
      agenda.tracked = [⟨remote, .awaiting 4⟩, ⟨passed, .opened⟩] ∧
      agenda.timers.map Timer.key = [5, 1, 4] ∧
      (∃ timer, agenda.timersOf remote .opening = [timer] ∧ timer.event = ⟨remote, .opening⟩ ∧
        timer.key = 4) ∧
      agenda.timersOf passed .opening = [] ∧
      (agenda.disarm 1).Holds 4 ⟨remote, .opening⟩ := by
  have started := Session.start.registerContact remote 0 rfl
  have accepted := started.registerContact passed 10000 rfl
  have year := accepted.elapse Timer.longestWait
  have rearmed := year.fire ⟨0, ⟨remote, .opening⟩, 31536000000, 8464000000⟩
    (by decide) (by decide)
  have opened := rearmed.fire ⟨3, ⟨passed, .closing⟩, 0, 0⟩ (by decide) (by decide)
  obtain ⟨matched, -, closings, -⟩ := opened.timers_match
  have overtakes := closings ⟨1, ⟨remote, .closing⟩, 31536000000, 8464060000⟩ (by decide) rfl
  obtain ⟨⟨timer, one, isOpening, isKey⟩, -⟩ :=
    matched.awaiting ⟨remote, .awaiting 4⟩ (by decide) rfl
  exact ⟨_, _, opened, by decide, by decide, ⟨timer, one, isOpening, (Option.some.inj isKey).symm⟩,
    (matched.opened ⟨passed, .opened⟩ (by decide) rfl).2.1, overtakes.2 false 4 (by decide)⟩

end Agenda

end ContactPlan
