import ContactPlan.Proofs.Agenda.Session

namespace ContactPlan

/-- Both declarations of a contact end at the same time. -/
theorem Contact.Same.stop_eq {left right : Contact} (same : left.Same right) :
    left.stop = right.stop := by
  rcases Contact.same_iff.mp same with rfl | rfl <;> rfl

def Event.instant (event : Event) : Instant := event.contact.boundary event.boundary

/-- A timer is patient when its waits do not end before the instant of its boundary.
At the origin the clock of the timers read zero. -/
def Timer.Patient (origin : Nat) (timer : Timer) : Prop :=
  timer.event.instant.toNat ≤ origin + timer.deadline + timer.remaining

/-- A delay is waited for in full, however it is divided into waits. -/
theorem Timer.patient_start {origin key clock delay : Nat} {event : Event} :
    (Timer.start key event clock delay).Patient origin ↔
      event.instant.toNat ≤ origin + clock + delay := by
  have bounded : Timer.wait delay ≤ delay := Nat.min_le_left _ _
  unfold Timer.Patient Timer.start
  simp only
  omega

/-- A change of phase does not touch the contact. -/
theorem Tracked.contact_change (tracked : Tracked) (contact : Contact) (step : Phase → Phase) :
    (tracked.change contact step).contact = tracked.contact := by
  by_cases same : tracked.contact.Same contact
  · rw [change_same same]
  · rw [change_other same]

namespace Agenda

/-- Either declaration of a contact tells whether it is tracked. -/
theorem tracks_congr {agenda : Agenda} {left right : Contact} (same : left.Same right) :
    agenda.tracks left ↔ agenda.tracks right := by
  simp only [tracks_iff, same.congr_right]

/-- A change of phase does not decide whether a contact is tracked. -/
theorem tracks_change {agenda : Agenda} {changed contact : Contact} {step : Phase → Phase} :
    (agenda.change changed step).tracks contact ↔ agenda.tracks contact := by
  simp only [tracks_iff, change, List.mem_map, exists_exists_and_eq_and, Tracked.contact_change]

/-- Only the forgotten contact is not tracked any more. -/
theorem tracks_forget {agenda : Agenda} {forgotten contact : Contact} :
    (agenda.forget forgotten).tracks contact ↔
      agenda.tracks contact ∧ ¬forgotten.Same contact := by
  simp only [tracks_iff, forget, List.mem_filter]
  constructor
  · rintro ⟨tracked, ⟨member, kept⟩, same⟩
    refine ⟨⟨tracked, member, same⟩, fun sameForgotten => ?_⟩
    simp [same.trans sameForgotten.symm] at kept
  · rintro ⟨⟨tracked, member, same⟩, other⟩
    refine ⟨tracked, ⟨member, ?_⟩, same⟩
    have kept : ¬tracked.contact.Same forgotten := fun isForgotten =>
      other (isForgotten.symm.trans same)
    simpa using kept

/-- Only the contact that is tracked is new. -/
theorem tracks_track {agenda : Agenda} {added contact : Contact} {now : Instant} :
    (agenda.track added now).tracks contact ↔ agenda.tracks contact ∨ added.Same contact := by
  have tracked : (agenda.track added now).tracked =
      agenda.tracked ++ [⟨added, .awaiting agenda.nextKey⟩] := rfl
  simp only [tracks_iff, tracked, List.mem_append, List.mem_singleton, or_and_right, exists_or,
    exists_eq_left]

/-- A tracked contact has a timer for its closing. -/
theorem Sound.closing_of_tracks {agenda : Agenda} (sound : agenda.Sound) {contact : Contact}
    (tracks : agenda.tracks contact) :
    ∃ timer ∈ agenda.timers, timer.event.boundary = .closing ∧
      timer.event.contact.Same contact := by
  obtain ⟨tracked, member, same⟩ := tracks_iff.mp tracks
  have isAhead : ⟨tracked.contact, .closing⟩ ∈ agenda.tracked.flatMap Tracked.ahead := by
    refine List.mem_flatMap.mpr ⟨tracked, member, ?_⟩
    unfold Tracked.ahead
    split <;> simp
  obtain ⟨timer, waits, isClosing⟩ := List.mem_map.mp (sound.ahead.mem_iff.mpr isAhead)
  exact ⟨timer, waits, by rw [isClosing], by rw [isClosing]; exact same⟩

/-- No timer of a patient agenda ends its waits before the instant of its boundary. -/
def Patient (origin : Nat) (agenda : Agenda) : Prop :=
  ∀ timer ∈ agenda.timers, timer.Patient origin

theorem patient_empty (origin : Nat) : Patient origin Agenda.empty := by
  intro timer member
  cases member

/-- What becomes of a timer that is handed out. -/
inductive Fired (agenda : Agenda) (timer : Timer) : Option Event → Agenda → Prop where
  | waits (left : timer.remaining ≠ 0) :
      Fired agenda timer none ((agenda.disarm timer.key).rearm timer)
  | opens (waited : timer.remaining = 0) (isOpening : timer.event.boundary = .opening) :
      Fired agenda timer (some timer.event)
        ((agenda.disarm timer.key).markOpened timer.event.contact)
  | untracked (waited : timer.remaining = 0) (isClosing : timer.event.boundary = .closing)
      (unknown : (agenda.disarm timer.key).phase? timer.event.contact = none) :
      Fired agenda timer none (agenda.disarm timer.key)
  | opensFirst (waited : timer.remaining = 0) (isClosing : timer.event.boundary = .closing)
      {hasOpened : Bool} (opening : Nat)
      (awaiting : (agenda.disarm timer.key).phase? timer.event.contact =
        some ⟨hasOpened, some opening⟩) :
      Fired agenda timer (some ⟨timer.event.contact, .opening⟩)
        ((agenda.disarm timer.key).openFirst timer.event.contact opening)
  | closes (waited : timer.remaining = 0) (isClosing : timer.event.boundary = .closing) :
      Fired agenda timer (some timer.event) ((agenda.disarm timer.key).forget timer.event.contact)

/-- One of these things becomes of every timer that is handed out. -/
theorem fired (agenda : Agenda) (timer : Timer) :
    agenda.Fired timer (agenda.fire timer).1 (agenda.fire timer).2 := by
  by_cases left : timer.remaining ≠ 0
  · rw [fire_waiting left]
    exact .waits left
  · have waited := not_not.mp left
    rw [fire_due waited]
    cases boundary : timer.event.boundary with
    | opening => exact .opens waited boundary
    | closing =>
        cases found : (agenda.disarm timer.key).phase? timer.event.contact with
        | none =>
            simp only [close, found]
            exact .untracked waited boundary found
        | some current =>
            obtain ⟨hasOpened, opening⟩ := current
            cases opening with
            | some opening =>
                simp only [close, found]
                exact .opensFirst waited boundary opening found
            | none =>
                have whole : (⟨timer.event.contact, .closing⟩ : Event) = timer.event := by
                  rw [← boundary]
                simp only [close, found, whole]
                exact .closes waited boundary

/-- A timer that waits on is armed for what is left, whatever it waits for. -/
theorem timers_rearm (agenda : Agenda) (timer : Timer) :
    (agenda.rearm timer).timers = (agenda.arm timer.event timer.remaining).timers := by
  unfold Agenda.rearm
  cases timer.event.boundary <;> rfl

section Firing

variable {agenda next : Agenda} {timer : Timer} {outcome : Option Event}
  (fired : agenda.Fired timer outcome next)
include fired

/-- No time passes while a timer is handed out. -/
theorem Fired.clock_eq : next.clock = agenda.clock := by
  cases fired with
  | waits =>
      unfold rearm
      cases timer.event.boundary <;> rfl
  | opens => rfl
  | untracked => rfl
  | opensFirst => rfl
  | closes => rfl

/-- A contact is tracked until it closes. -/
theorem Fired.tracks {contact : Contact} (tracked : agenda.tracks contact) :
    next.tracks contact ∨
      ∃ event, outcome = some event ∧ event.boundary = .closing ∧ event.contact.Same contact := by
  cases fired with
  | waits =>
      refine .inl ?_
      unfold rearm
      cases timer.event.boundary with
      | opening => exact tracks_change.mpr tracked
      | closing => exact tracked
  | opens => exact .inl (tracks_change.mpr tracked)
  | untracked => exact .inl tracked
  | opensFirst => exact .inl (tracks_change.mpr tracked)
  | closes _ isClosing =>
      by_cases same : timer.event.contact.Same contact
      · exact .inr ⟨_, rfl, isClosing, same⟩
      · exact .inl (tracks_forget.mpr ⟨tracked, same⟩)

/-- Only the timer that is handed out may be started again, with what is left of its delay. -/
theorem Fired.mem_timers {other : Timer} (member : other ∈ next.timers) :
    other ∈ agenda.timers ∨
      ∃ key, other = Timer.start key timer.event agenda.clock timer.remaining := by
  have earlier {key : Nat} {agenda : Agenda} (kept : other ∈ (agenda.disarm key).timers) :
      other ∈ agenda.timers := List.mem_of_mem_filter kept
  cases fired with
  | waits =>
      rw [timers_rearm] at member
      rcases mem_timers_arm.mp member with rfl | kept
      · exact .inr ⟨_, rfl⟩
      · exact .inl (earlier kept)
  | opens => exact .inl (earlier member)
  | untracked => exact .inl (earlier member)
  | opensFirst waited isClosing opening =>
      change other ∈ (((agenda.disarm timer.key).disarm opening).arm
        ⟨timer.event.contact, .closing⟩ 0).timers at member
      rcases mem_timers_arm.mp member with isNew | kept
      · refine .inr ⟨agenda.nextKey, isNew.trans ?_⟩
        rw [waited, ← isClosing]
        rfl
      · exact .inl (earlier (earlier kept))
  | closes => exact .inl (earlier member)

/-- A timer that is due and has nothing left to wait for has reached the instant of its boundary. -/
theorem Fired.patient {origin : Nat} (patient : agenda.Patient origin)
    (member : timer ∈ agenda.timers) (due : timer.deadline ≤ agenda.clock) :
    next.Patient origin := by
  intro other isOther
  rcases fired.mem_timers isOther with old | ⟨key, rfl⟩
  · exact patient other old
  · exact Timer.patient_start.mpr (Nat.le_trans (patient timer member) (by omega))

/-- No contact closes before its end. -/
theorem Fired.stop_le {origin : Nat} (patient : agenda.Patient origin)
    (member : timer ∈ agenda.timers) (due : timer.deadline ≤ agenda.clock) {event : Event}
    (delivered : outcome = some event) (closes : event.boundary = .closing) :
    event.contact.stop.toNat ≤ origin + agenda.clock := by
  have reached : timer.event.instant.toNat ≤ origin + agenda.clock + timer.remaining :=
    Nat.le_trans (patient timer member) (by omega)
  cases fired with
  | waits => cases delivered
  | opens _ isOpening =>
      cases delivered
      rw [isOpening] at closes
      cases closes
  | untracked => cases delivered
  | opensFirst =>
      cases delivered
      cases closes
  | closes waited =>
      cases delivered
      rw [waited, Event.instant, closes] at reached
      exact reached

end Firing

/-- No time passes while contacts are registered. -/
theorem clock_registerAll (agenda : Agenda) (now : Instant) (contacts : List Contact) :
    (agenda.registerAll now contacts).2.clock = agenda.clock := by
  induction contacts generalizing agenda with
  | nil => rfl
  | cons contact rest inductionHypothesis =>
      by_cases accepts : agenda.accepts contact
      · rw [registerAll_cons_accepted accepts]
        exact inductionHypothesis (agenda.track contact now)
      · rw [registerAll_cons_refused accepts]
        exact inductionHypothesis agenda

/-- A contact that is tracked starts timers for its boundaries only. -/
theorem mem_timers_track {agenda : Agenda} {contact : Contact} {now : Instant} {timer : Timer}
    (member : timer ∈ (agenda.track contact now).timers) :
    timer ∈ agenda.timers ∨ ∃ key boundary, timer =
      Timer.start key ⟨contact, boundary⟩ agenda.clock (contact.reminder boundary now).delay := by
  rcases mem_timers_arm.mp member with rfl | isFirst
  · exact .inr ⟨_, .closing, rfl⟩
  · rcases mem_timers_arm.mp isFirst with rfl | old
    · exact .inr ⟨_, .opening, rfl⟩
    · exact .inl old

/-- Only timers for the boundaries of contacts are started when the contacts are registered. -/
theorem mem_timers_registerAll {agenda : Agenda} {now : Instant} {contacts : List Contact}
    {timer : Timer} (member : timer ∈ (agenda.registerAll now contacts).2.timers) :
    timer ∈ agenda.timers ∨ ∃ key, ∃ contact boundary, timer =
      Timer.start key ⟨contact, boundary⟩ agenda.clock (contact.reminder boundary now).delay := by
  induction contacts generalizing agenda with
  | nil => exact .inl member
  | cons contact rest inductionHypothesis =>
      by_cases accepts : agenda.accepts contact
      · rw [registerAll_cons_accepted accepts] at member
        rcases inductionHypothesis member with tracked | new
        · exact (mem_timers_track tracked).imp_right fun ⟨key, boundary, isNew⟩ =>
            ⟨key, contact, boundary, isNew⟩
        · exact .inr new
      · rw [registerAll_cons_refused accepts] at member
        exact inductionHypothesis member

/-- The delay of a reminder lasts until its boundary when the clocks agree. -/
theorem Patient.registerAll {origin : Nat} {agenda : Agenda} (patient : agenda.Patient origin)
    {now : Instant} (reading : now.toNat = origin + agenda.clock) (contacts : List Contact) :
    (agenda.registerAll now contacts).2.Patient origin := by
  intro timer member
  rcases mem_timers_registerAll member with old | ⟨key, contact, boundary, rfl⟩
  · exact patient timer old
  · apply Timer.patient_start.mpr
    change (contact.boundary boundary).toNat ≤
      origin + agenda.clock + ((contact.boundary boundary).toNat - now.toNat)
    omega

/-- Exactly the valid contacts of a list are tracked after it has been registered, besides those
that were tracked before. -/
theorem tracks_registerAll {agenda : Agenda} {now : Instant} {contacts : List Contact}
    {contact : Contact} :
    (agenda.registerAll now contacts).2.tracks contact ↔
      agenda.tracks contact ∨ contact.isValid ∧ ∃ member ∈ contacts, member.Same contact := by
  induction contacts generalizing agenda with
  | nil => simp [Agenda.registerAll]
  | cons head rest inductionHypothesis =>
      simp only [List.exists_mem_cons_iff]
      by_cases accepts : agenda.accepts head
      · have isValid := (accepts_iff.mp accepts).1
        rw [registerAll_cons_accepted accepts, inductionHypothesis, tracks_track]
        constructor
        · rintro ((tracked | same) | ⟨valid, later⟩)
          · exact .inl tracked
          · exact .inr ⟨same.isValid_eq ▸ isValid, .inl same⟩
          · exact .inr ⟨valid, .inr later⟩
        · rintro (tracked | ⟨valid, same | later⟩)
          · exact .inl (.inl tracked)
          · exact .inl (.inr same)
          · exact .inr ⟨valid, later⟩
      · have known (isValid : head.isValid) : agenda.tracks head := by
          by_contra untracked
          exact accepts (accepts_iff.mpr ⟨isValid, untracked⟩)
        rw [registerAll_cons_refused accepts, inductionHypothesis]
        constructor
        · rintro (tracked | ⟨valid, later⟩)
          · exact .inl tracked
          · exact .inr ⟨valid, .inr later⟩
        · rintro (tracked | ⟨valid, same | later⟩)
          · exact .inl tracked
          · exact .inl ((tracks_congr same).mp (known (same.isValid_eq ▸ valid)))
          · exact .inr ⟨valid, later⟩

end Agenda

end ContactPlan
