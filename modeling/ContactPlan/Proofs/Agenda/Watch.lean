import ContactPlan.Proofs.Agenda.Timing

/-
This file watches an agenda at every instant up to a limit.
Timers with one deadline may come in any order, and what is handed out is due by the limit.
-/

namespace ContactPlan

namespace Timer

/-- Timers stand in the order of their deadlines. -/
def InOrder (timers : List Timer) : Prop :=
  timers.Pairwise fun left right => left.deadline ≤ right.deadline

/-- A timer is inserted in the order of the deadlines. -/
theorem InOrder.insertInto {timers : List Timer} (inOrder : InOrder timers) (timer : Timer) :
    InOrder (timer.insertInto timers) := by
  induction timers with
  | nil => exact List.pairwise_singleton _ _
  | cons head rest inductionHypothesis =>
      obtain ⟨headFirst, restInOrder⟩ := List.pairwise_cons.mp inOrder
      unfold Timer.insertInto
      split
      next notAfter =>
        rw [InOrder, List.pairwise_cons]
        refine ⟨fun other member => ?_, inductionHypothesis restInOrder⟩
        rcases List.mem_cons.mp ((timer.perm_insertInto rest).mem_iff.mp member) with rfl | inRest
        · exact notAfter
        · exact headFirst other inRest
      next after =>
        rw [InOrder, List.pairwise_cons]
        refine ⟨fun other member => ?_, inOrder⟩
        rcases List.mem_cons.mp member with rfl | inRest
        · omega
        · have later := headFirst other inRest
          omega

/-- The key of a timer only tells it from others. -/
def unkeyed (timer : Timer) : Timer := { timer with key := 0 }

/-- A timer that is handed out at each deadline up to a limit waits on until nothing is left. -/
def resumed (limit : Nat) (timer : Timer) : Timer :=
  if timer.deadline ≤ limit ∧ timer.remaining ≠ 0 then
    (Timer.start timer.key timer.event timer.deadline timer.remaining).resumed limit
  else timer
termination_by timer.remaining
decreasing_by
  simp only [Timer.start, Timer.wait, Timer.longestWait]
  omega

/-- A wait that is over by the limit goes on as a new wait. -/
theorem resumed_again {limit : Nat} {timer : Timer} (due : timer.deadline ≤ limit)
    (left : timer.remaining ≠ 0) :
    timer.resumed limit =
      (Timer.start timer.key timer.event timer.deadline timer.remaining).resumed limit := by
  rw [resumed, if_pos ⟨due, left⟩]

/-- A timer that is not due by the limit waits on as it is. -/
theorem resumed_later {limit : Nat} {timer : Timer} (later : limit < timer.deadline) :
    timer.resumed limit = timer := by
  rw [resumed, if_neg fun resumes => Nat.not_le_of_lt later resumes.1]

/-- A timer with nothing left to wait for is not resumed. -/
theorem resumed_waited {limit : Nat} {timer : Timer} (waited : timer.remaining = 0) :
    timer.resumed limit = timer := by
  rw [resumed, if_neg fun resumes => resumes.2 waited]

/-- However often a timer is started again, it waits for the same event until the same time. -/
theorem event_due_resumed (limit : Nat) (timer : Timer) :
    (timer.resumed limit).event = timer.event ∧ (timer.resumed limit).due = timer.due := by
  induction timer using Timer.resumed.induct limit with
  | case1 timer resumes inductionHypothesis =>
      rw [resumed_again resumes.1 resumes.2]
      obtain ⟨sameEvent, sameDue⟩ := inductionHypothesis
      exact ⟨sameEvent, sameDue.trans (Timer.due_start _ _ _ _)⟩
  | case2 timer stays =>
      rw [resumed, if_neg stays]
      exact ⟨rfl, rfl⟩

end Timer

/-- An event is handed out when a timer for it has nothing left to wait for. -/
def Occurrence.timer (occurrence : Occurrence) : Timer :=
  ⟨0, occurrence.event, occurrence.instant, 0⟩

/-- Without its key a timer that has waited tells no more than its occurrence. -/
theorem Timer.unkeyed_eq {timer : Timer} (waited : timer.remaining = 0) :
    timer.unkeyed = (Occurrence.mk timer.deadline timer.event).timer := by
  unfold unkeyed Occurrence.timer
  rw [waited]

namespace Agenda

/-- No deadline has passed, and the timers stand in order. -/
structure Orderly (agenda : Agenda) : Prop where
  ahead : ∀ timer ∈ agenda.timers, agenda.clock ≤ timer.deadline
  inOrder : Timer.InOrder agenda.timers

/-- An armed timer takes its place among the deadlines. -/
theorem Orderly.arm {agenda : Agenda} (orderly : agenda.Orderly) (event : Event) (delay : Nat) :
    (agenda.arm event delay).Orderly := by
  constructor
  · intro timer member
    rcases mem_timers_arm.mp member with rfl | old
    · exact Nat.le_add_right _ _
    · exact orderly.ahead timer old
  · change Timer.InOrder (Timer.enqueue _ delay agenda.timers)
    unfold Timer.enqueue
    split
    next atOnce =>
      rw [Timer.InOrder, List.pairwise_cons]
      refine ⟨fun other member => ?_, orderly.inOrder⟩
      rw [atOnce]
      exact orderly.ahead other member
    · exact orderly.inOrder.insertInto _

theorem Orderly.disarm {agenda : Agenda} (orderly : agenda.Orderly) (key : Nat) :
    (agenda.disarm key).Orderly :=
  ⟨fun timer member => orderly.ahead timer (List.mem_of_mem_filter member),
    List.Pairwise.sublist List.filter_sublist orderly.inOrder⟩

/-- The phases of contacts do not matter to the order of timers. -/
theorem Orderly.congr {agenda next : Agenda} (orderly : agenda.Orderly)
    (sameTimers : next.timers = agenda.timers) (sameClock : next.clock = agenda.clock) :
    next.Orderly := by
  constructor
  · rw [sameTimers, sameClock]
    exact orderly.ahead
  · rw [sameTimers]
    exact orderly.inOrder

/-- The clock may reach the least deadline. -/
theorem Orderly.reach {agenda : Agenda} (orderly : agenda.Orderly) {instant : Nat}
    (least : ∀ timer ∈ agenda.timers, instant ≤ timer.deadline) :
    (agenda.reach instant).Orderly :=
  ⟨fun timer member => Nat.max_le.mpr ⟨orderly.ahead timer member, least timer member⟩,
    orderly.inOrder⟩

theorem Orderly.track {agenda : Agenda} (orderly : agenda.Orderly) (contact : Contact)
    (now : Instant) : (agenda.track contact now).Orderly :=
  ((orderly.arm _ _).arm _ _).congr rfl rfl

/-- An agenda stays orderly whatever becomes of a timer. -/
theorem Fired.orderly {agenda next : Agenda} {timer : Timer} {outcome : Option Event}
    (fired : agenda.Fired timer outcome next) (orderly : agenda.Orderly) : next.Orderly := by
  have rest := orderly.disarm timer.key
  have sameClock := fired.clock_eq
  cases fired with
  | waits => exact (rest.arm timer.event timer.remaining).congr (timers_rearm _ _) sameClock
  | opens => exact rest.congr rfl rfl
  | untracked => exact rest
  | opensFirst _ _ opening =>
      exact ((rest.disarm opening).arm ⟨timer.event.contact, .closing⟩ 0).congr rfl rfl
  | closes => exact rest.congr rfl rfl

/-- An agenda stays sound when its clock reaches an instant. -/
theorem Sound.reach {agenda : Agenda} (sound : agenda.Sound) (instant : Nat) :
    (agenda.reach instant).Sound := by
  rw [reach_eq_advance]
  exact sound.advance _

/-- At every instant up to a limit, timers whose deadline has come are handed out in any order. -/
inductive Watched (limit : Nat) : Agenda → List Occurrence → Agenda → Prop where
  | fire {agenda final : Agenda} {occurrences : List Occurrence} (timer : Timer)
      (waits : timer ∈ agenda.timers)
      (least : ∀ other ∈ agenda.timers, timer.deadline ≤ other.deadline)
      (due : timer.deadline ≤ limit)
      (watched : Watched limit (agenda.fireAt timer).2 occurrences final) :
      Watched limit agenda
        (((agenda.fireAt timer).1.map (Occurrence.mk (max agenda.clock timer.deadline))).toList ++
          occurrences) final
  | rest {agenda : Agenda} (later : ∀ timer ∈ agenda.timers, limit < timer.deadline) :
      Watched limit agenda [] (agenda.reach limit)

/-- An agenda is punctual when no timer waits for longer or less long than registered. -/
structure Punctual (marks : List Mark) (agenda : Agenda) : Prop where
  sound : agenda.Sound
  orderly : agenda.Orderly
  meets : agenda.Meets (· = ·) marks

/-- The timers of an agenda count with what they wait for, but without their keys. -/
def waits (agenda : Agenda) : List Timer := agenda.timers.map Timer.unkeyed

/-- An armed timer waits besides the others. -/
theorem waits_arm (agenda : Agenda) (event : Event) (delay : Nat) :
    (agenda.arm event delay).waits.Perm
      (Timer.start 0 event agenda.clock delay :: agenda.waits) :=
  (Timer.perm_enqueue _ delay agenda.timers).map Timer.unkeyed

theorem Keyed.waits_disarm {agenda : Agenda} (keyed : agenda.Keyed) {timer : Timer}
    (member : timer ∈ agenda.timers) :
    agenda.waits.Perm (timer.unkeyed :: (agenda.disarm timer.key).waits) :=
  (Timer.perm_filter_key keyed.distinct member).map Timer.unkeyed

/-- The clock may reach the least deadline without delay. -/
theorem Punctual.reach {marks : List Mark} {agenda : Agenda} (punctual : agenda.Punctual marks)
    {instant : Nat} (least : ∀ timer ∈ agenda.timers, instant ≤ timer.deadline) :
    (agenda.reach instant).Punctual marks :=
  ⟨punctual.sound.reach instant, punctual.orderly.reach least, punctual.meets⟩

section Watching

variable {marks : List Mark} {agenda : Agenda} (punctual : agenda.Punctual marks) {timer : Timer}
  (waits : timer ∈ agenda.timers) (reached : timer.deadline = agenda.clock)
include punctual waits reached

/-- An agenda stays punctual when a timer is handed out at its deadline. -/
theorem Punctual.fire : (agenda.fire timer).2.Punctual marks := by
  have fired := agenda.fired timer
  refine ⟨(punctual.sound.fire waits).1, fired.orderly punctual.orderly, ?_⟩
  apply fired.meets punctual.meets waits
  intro due isDue
  rw [← reached]
  exact isDue

/-- An opening that is overtaken by its closing is due as well, since it is due no later. -/
theorem Punctual.unkeyed_overtaken (waited : timer.remaining = 0)
    (isClosing : timer.event.boundary = .closing) {opening : Timer}
    (openingWaits : opening ∈ agenda.timers)
    (isOpening : opening.event = ⟨timer.event.contact, .opening⟩) :
    opening.unkeyed =
      (Occurrence.mk agenda.clock ⟨timer.event.contact, .opening⟩).timer := by
  obtain ⟨registration, isLast, -, isDue⟩ := punctual.meets timer waits
  obtain ⟨other, otherLast, -, openingDue⟩ := punctual.meets opening openingWaits
  rw [isOpening, isLast] at otherLast
  cases otherLast
  rw [isClosing] at isDue
  rw [isOpening] at openingDue
  have noLater : opening.due ≤ timer.due :=
    openingDue ▸ isDue ▸ registration.due_opening_le
  have notPassed := punctual.orderly.ahead opening openingWaits
  unfold Timer.due at noLater
  have nothingLeft : opening.remaining = 0 := by omega
  have sameDeadline : opening.deadline = agenda.clock := by omega
  unfold Timer.unkeyed Occurrence.timer
  rw [nothingLeft, sameDeadline, isOpening]

/-- A timer that is handed out waits on, or an event comes that nothing waits for any more. -/
theorem Punctual.waits_fire :
    (timer.remaining ≠ 0 ∧ (agenda.fire timer).1 = none ∧ ∃ others,
      agenda.waits.Perm (timer.unkeyed :: others) ∧
      (agenda.fire timer).2.waits.Perm
        (Timer.start 0 timer.event agenda.clock timer.remaining :: others)) ∨
    ∃ event, (agenda.fire timer).1 = some event ∧
      agenda.waits.Perm
        ((Occurrence.mk agenda.clock event).timer :: (agenda.fire timer).2.waits) := by
  have taken := punctual.sound.keyed.waits_disarm waits
  have whole (waited : timer.remaining = 0) :
      timer.unkeyed = (Occurrence.mk agenda.clock timer.event).timer :=
    reached ▸ Timer.unkeyed_eq waited
  have fired := agenda.fired timer
  generalize (agenda.fire timer).1 = outcome at fired ⊢
  generalize (agenda.fire timer).2 = next at fired ⊢
  cases fired with
  | waits left =>
      have armed := (agenda.disarm timer.key).waits_arm timer.event timer.remaining
      refine .inl ⟨left, rfl, _, taken, ?_⟩
      rw [Agenda.waits, timers_rearm]
      exact armed
  | opens waited => exact .inr ⟨_, rfl, whole waited ▸ taken⟩
  | untracked _ _ unknown =>
      have tracked := punctual.sound.tracks_disarm waits
      rw [tracks, unknown] at tracked
      cases tracked
  | opensFirst waited isClosing opening awaiting =>
      have isEvent : timer.event = ⟨timer.event.contact, .closing⟩ := by rw [← isClosing]
      have lacks := Lacks.disarm punctual.sound waits
      rw [isEvent] at lacks
      obtain ⟨first, isFirst, rfl, isOpening⟩ := lacks.holds_opening awaiting
      have overtaken := punctual.unkeyed_overtaken waits reached waited isClosing
        (List.mem_of_mem_filter isFirst) isOpening
      have both := taken.trans ((lacks.keyed.waits_disarm isFirst).cons _)
      have armed := ((agenda.disarm timer.key).disarm first.key).waits_arm
        ⟨timer.event.contact, .closing⟩ 0
      -- The closing waits for nothing and is armed for nothing.
      have again : Timer.start 0 ⟨timer.event.contact, .closing⟩ agenda.clock 0 =
          timer.unkeyed := by
        rw [whole waited, isEvent]
        rfl
      refine .inr ⟨_, rfl, both.trans ((List.Perm.swap _ _ _).trans ?_)⟩
      rw [overtaken]
      refine List.Perm.cons _ (List.Perm.symm ?_)
      rw [← again]
      exact armed
  | closes waited => exact .inr ⟨_, rfl, whole waited ▸ taken⟩

end Watching

/-- The clock reaches exactly the deadline of a timer. -/
theorem Punctual.clock_reach {marks : List Mark} {agenda : Agenda}
    (punctual : agenda.Punctual marks) {timer : Timer} (waits : timer ∈ agenda.timers) :
    (agenda.reach timer.deadline).clock = timer.deadline :=
  Nat.max_eq_right (punctual.orderly.ahead timer waits)

section Watches

variable {marks : List Mark} {limit : Nat} {agenda final : Agenda} {occurrences : List Occurrence}
  (watched : agenda.Watched limit occurrences final)
include watched

/-- A watched agenda stays punctual. -/
theorem Watched.punctual (punctual : agenda.Punctual marks) : final.Punctual marks := by
  induction watched with
  | fire timer waits least due watched inductionHypothesis =>
      have reached := punctual.clock_reach waits
      exact inductionHypothesis ((punctual.reach least).fire waits reached.symm)
  | rest later => exact punctual.reach fun timer member => Nat.le_of_lt (later timer member)

/-- The clock reaches the limit and nothing else, and nothing that is due by then waits on. -/
theorem Watched.reaches (within : agenda.clock ≤ limit) :
    (∀ occurrence ∈ occurrences, occurrence.instant ≤ limit) ∧
      (∀ timer ∈ final.timers, limit < timer.deadline) ∧ final.clock = limit := by
  induction watched with
  | @fire agenda final occurrences timer waits least due watched inductionHypothesis =>
      have sameClock : (agenda.fireAt timer).2.clock = max agenda.clock timer.deadline :=
        ((agenda.reach timer.deadline).fired timer).clock_eq
      have reached : max agenda.clock timer.deadline ≤ limit := Nat.max_le.mpr ⟨within, due⟩
      obtain ⟨early, later⟩ := inductionHypothesis (sameClock ▸ reached)
      refine ⟨fun occurrence member => ?_, later⟩
      rcases List.mem_append.mp member with first | rest
      · rw [Option.mem_toList] at first
        obtain ⟨event, -, rfl⟩ := Option.map_eq_some_iff.mp first
        exact reached
      · exact early occurrence rest
  | rest later => exact ⟨by simp, later, Nat.max_eq_right within⟩

/-- What is waited for is handed out when it is due, and the rest waits on. -/
theorem Watched.waits (punctual : agenda.Punctual marks) :
    (agenda.waits.map (Timer.resumed limit)).Perm
      (occurrences.map Occurrence.timer ++ final.waits) := by
  induction watched with
  | @fire agenda final occurrences timer waits least due watched inductionHypothesis =>
      have reached := punctual.clock_reach waits
      have punctualThen := punctual.reach least
      have later := inductionHypothesis (punctualThen.fire waits reached.symm)
      have sameClock : max agenda.clock timer.deadline = timer.deadline := reached
      rcases punctualThen.waits_fire waits reached.symm with
        ⟨left, noEvent, others, before, after⟩ | ⟨event, isEvent, before⟩
      · have again : timer.unkeyed.resumed limit =
            (Timer.start 0 timer.event timer.deadline timer.remaining).resumed limit :=
          Timer.resumed_again due left
        have noOccurrence : (agenda.fireAt timer).1 = none := noEvent
        rw [reached] at after
        rw [noOccurrence]
        refine (before.map _).trans (List.Perm.trans ?_ later)
        rw [List.map_cons, again]
        exact ((after.map _).symm)
      · have isOccurrence : (agenda.fireAt timer).1 = some event := isEvent
        rw [reached] at before
        rw [isOccurrence, sameClock]
        refine (before.map _).trans ?_
        rw [List.map_cons, Timer.resumed_waited rfl]
        exact later.cons _
  | @rest agenda later =>
      have stays : agenda.waits.map (Timer.resumed limit) = agenda.waits := by
        refine Eq.trans (List.map_congr_left ?_) (List.map_id _)
        intro wait member
        obtain ⟨timer, isTimer, rfl⟩ := List.mem_map.mp member
        exact Timer.resumed_later (later timer isTimer)
      rw [stays]
      exact .rfl

end Watches

end Agenda

end ContactPlan
