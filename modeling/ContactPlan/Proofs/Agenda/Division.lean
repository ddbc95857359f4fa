import ContactPlan.Proofs.Agenda.Watch

namespace ContactPlan

/-- What a timer hands out when it has nothing left to wait for. -/
def Timer.occurrence (timer : Timer) : Occurrence := ⟨timer.deadline, timer.event⟩

namespace Agenda

/-- Timers wait for an event of a tracked contact exactly when it is still to come. -/
theorem Sound.mem_events {agenda : Agenda} (sound : agenda.Sound) {tracked : Tracked}
    (member : tracked ∈ agenda.tracked) (boundary : Boundary) :
    ⟨tracked.contact, boundary⟩ ∈ agenda.events ↔
      ⟨tracked.contact, boundary⟩ ∈ tracked.ahead := by
  have waitedFor : ⟨tracked.contact, boundary⟩ ∈
      (agenda.timersOf tracked.contact boundary).map Timer.event ↔
        ⟨tracked.contact, boundary⟩ ∈ agenda.events := by
    rw [events, List.mem_map, List.mem_map]
    apply exists_congr
    intro timer
    rw [mem_timersOf]
    constructor
    · rintro ⟨⟨waits, -⟩, isEvent⟩
      exact ⟨waits, isEvent⟩
    · rintro ⟨waits, isEvent⟩
      rw [isEvent]
      exact ⟨⟨waits, .refl _, rfl⟩, rfl⟩
  rw [← waitedFor, (sound.perm_timersOf member boundary).mem_iff]
  simp

/-- A tracked contact has opened when a timer for its closing waits and none for its opening. -/
theorem Sound.mem_standings {agenda : Agenda} (sound : agenda.Sound) {contact : Contact}
    {hasOpened : Bool} : ⟨contact, hasOpened⟩ ∈ agenda.standings ↔
      ⟨contact, .closing⟩ ∈ agenda.events ∧
        (hasOpened ↔ ⟨contact, .opening⟩ ∉ agenda.events) := by
  have known {phase : Phase} (isTracked : ⟨contact, phase⟩ ∈ agenda.tracked) :
      ⟨contact, .closing⟩ ∈ agenda.events ∧
        ((Tracked.mk contact phase).standing.hasOpened ↔
          ⟨contact, .opening⟩ ∉ agenda.events) := by
    rw [sound.mem_events isTracked .closing, sound.mem_events isTracked .opening]
    obtain ⟨hasOpened, opening⟩ := phase
    cases hasOpened <;> simp [Tracked.ahead, Tracked.standing]
  constructor
  · intro member
    obtain ⟨⟨tracked, phase⟩, isTracked, isStanding⟩ := List.mem_map.mp member
    cases isStanding
    exact known isTracked
  · rintro ⟨closes, opened⟩
    obtain ⟨timer, waits, isClosing⟩ := List.mem_map.mp closes
    obtain ⟨phase, isTracked, -⟩ := sound.owner waits
    rw [isClosing] at isTracked
    have sameOpened : (Tracked.mk contact phase).standing.hasOpened = hasOpened :=
      Bool.eq_iff_iff.mpr ((known isTracked).2.trans opened.symm)
    rw [← sameOpened]
    exact List.mem_map_of_mem isTracked

/-- Agendas are alike when the same contacts stand in the same way and the same timers wait,
whatever the order and the keys are. -/
structure Alike (left right : Agenda) : Prop where
  clock : left.clock = right.clock
  standings : left.standings.Perm right.standings
  waits : left.waits.Perm right.waits

/-- The timers tell how contacts stand. -/
theorem Sound.perm_standings {left right : Agenda} (leftSound : left.Sound)
    (rightSound : right.Sound) (waits : left.waits.Perm right.waits) :
    left.standings.Perm right.standings := by
  have events : left.events.Perm right.events := by
    have waitedFor (agenda : Agenda) : agenda.waits.map Timer.event = agenda.events := by
      rw [Agenda.waits, List.map_map]
      rfl
    rw [← waitedFor, ← waitedFor]
    exact waits.map Timer.event
  have nodup {agenda : Agenda} (sound : agenda.Sound) : agenda.standings.Nodup := by
    apply sound.distinct.imp
    intro left right apart equal
    exact apart (equal ▸ .refl _)
  rw [List.perm_ext_iff_of_nodup (nodup leftSound) (nodup rightSound)]
  intro standing
  rw [leftSound.mem_standings, rightSound.mem_standings, events.mem_iff, events.mem_iff]

/-- A watch parts what is due by the limit from what waits on. -/
theorem Watched.parts {marks : List Mark} {limit : Nat} {agenda final : Agenda}
    {occurrences : List Occurrence} (watched : agenda.Watched limit occurrences final)
    (punctual : agenda.Punctual marks) (within : agenda.clock ≤ limit) :
    let resumed := agenda.waits.map (Timer.resumed limit)
    occurrences.Perm
        ((resumed.filter fun timer => timer.deadline ≤ limit).map Timer.occurrence) ∧
      final.waits.Perm (resumed.filter fun timer => limit < timer.deadline) := by
  have whole := watched.waits punctual
  obtain ⟨early, later, -⟩ := watched.reaches within
  have earlyTimers (timer : Timer) (member : timer ∈ occurrences.map Occurrence.timer) :
      timer.deadline ≤ limit := by
    obtain ⟨occurrence, isOccurrence, rfl⟩ := List.mem_map.mp member
    exact early occurrence isOccurrence
  have laterTimers (timer : Timer) (member : timer ∈ final.waits) : limit < timer.deadline := by
    obtain ⟨other, waits, rfl⟩ := List.mem_map.mp member
    exact later other waits
  constructor
  · have due := (whole.filter fun timer => timer.deadline ≤ limit).map Timer.occurrence
    have allEarly : (occurrences.map Occurrence.timer).filter (fun timer =>
        timer.deadline ≤ limit) = occurrences.map Occurrence.timer := by
      apply List.filter_eq_self.mpr
      simpa using earlyTimers
    have noneLater : final.waits.filter (fun timer => timer.deadline ≤ limit) = [] := by
      apply List.filter_eq_nil_iff.mpr
      simpa using laterTimers
    have backAgain : (occurrences.map Occurrence.timer).map Timer.occurrence = occurrences := by
      rw [List.map_map]
      exact List.map_id occurrences
    rw [List.filter_append, allEarly, noneLater, List.append_nil, backAgain] at due
    exact due.symm
  · have left := whole.filter fun timer => limit < timer.deadline
    have noneEarly : (occurrences.map Occurrence.timer).filter (fun timer =>
        limit < timer.deadline) = [] := by
      apply List.filter_eq_nil_iff.mpr
      simpa using earlyTimers
    have allLater : final.waits.filter (fun timer => limit < timer.deadline) = final.waits := by
      apply List.filter_eq_self.mpr
      simpa using laterTimers
    rw [List.filter_append, noneEarly, allLater, List.nil_append] at left
    exact left.symm

/-- All watches until one limit hand out the same and leave agendas that are alike. -/
theorem Watched.alike {marks : List Mark} {limit : Nat} {agenda left right : Agenda}
    {leftOccurrences rightOccurrences : List Occurrence}
    (leftWatched : agenda.Watched limit leftOccurrences left)
    (rightWatched : agenda.Watched limit rightOccurrences right)
    (punctual : agenda.Punctual marks) (within : agenda.clock ≤ limit) :
    leftOccurrences.Perm rightOccurrences ∧ left.Alike right := by
  obtain ⟨leftDue, leftWaits⟩ := leftWatched.parts punctual within
  obtain ⟨rightDue, rightWaits⟩ := rightWatched.parts punctual within
  have sameWaits := leftWaits.trans rightWaits.symm
  refine ⟨leftDue.trans rightDue.symm, ?_, ?_, sameWaits⟩
  · rw [(leftWatched.reaches within).2.2, (rightWatched.reaches within).2.2]
  · exact (leftWatched.punctual punctual).sound.perm_standings
      (rightWatched.punctual punctual).sound sameWaits

/-- Only the later of two instants counts for the clock. -/
theorem reach_reach (agenda : Agenda) {first second : Nat} (le : first ≤ second) :
    (agenda.reach first).reach second = agenda.reach second := by
  unfold Agenda.reach
  simp only [Nat.max_assoc, Nat.max_eq_right le]

/-- It does not matter for a timer whether the clock has moved on before its deadline. -/
theorem fireAt_reach (agenda : Agenda) {instant : Nat} {timer : Timer}
    (passed : instant ≤ timer.deadline) :
    (agenda.reach instant).fireAt timer = agenda.fireAt timer := by
  unfold Agenda.fireAt
  rw [reach_reach agenda passed]

/-- A watch that comes to a limit on its way to a later one is one watch. -/
theorem Watched.append {first second : Nat} {agenda middle final : Agenda}
    {earlier later : List Occurrence} (watched : agenda.Watched first earlier middle)
    (continued : middle.Watched second later final) (le : first ≤ second) :
    agenda.Watched second (earlier ++ later) final := by
  induction watched with
  | fire timer waits least due _ inductionHypothesis =>
      rw [List.append_assoc]
      exact .fire timer waits least (Nat.le_trans due le) (inductionHypothesis continued)
  | @rest agenda notYet =>
      -- The clock has only reached the first limit, and all deadlines come after it.
      cases continued with
      | fire timer waits least due watched =>
          have passed : first ≤ timer.deadline := Nat.le_of_lt (notYet timer waits)
          have sameAgenda := agenda.fireAt_reach passed
          have sameClock : max (agenda.reach first).clock timer.deadline =
              max agenda.clock timer.deadline := congrArg clock (reach_reach agenda passed)
          rw [sameAgenda] at watched
          rw [sameAgenda, sameClock]
          exact .fire timer waits least due watched
      | rest stillNot =>
          rw [reach_reach agenda le]
          exact .rest stillNot

/-- No deadline is earlier than the first one. -/
theorem Orderly.head_least {agenda : Agenda} (orderly : agenda.Orderly) {timer : Timer}
    {rest : List Timer} (head : agenda.timers = timer :: rest) :
    ∀ other ∈ agenda.timers, timer.deadline ≤ other.deadline := by
  have inOrder := orderly.inOrder
  rw [head] at inOrder
  intro other member
  rw [head] at member
  rcases List.mem_cons.mp member with rfl | inRest
  · exact Nat.le_refl _
  · exact (List.pairwise_cons.mp inOrder).1 other inRest

/-- Running an agenda is a way to watch it. -/
theorem Orderly.watched_runTo {agenda : Agenda} (orderly : agenda.Orderly) (limit : Nat) :
    agenda.Watched limit (agenda.runTo limit).1 (agenda.runTo limit).2 := by
  induction agenda using Agenda.runTo.induct limit with
  | case1 agenda none =>
      rw [runTo_nil none]
      exact .rest (by simp [none])
  | case2 agenda timer rest head due occurrences final isRest inductionHypothesis =>
      have waits : timer ∈ agenda.timers := head ▸ List.mem_cons_self
      have least := orderly.head_least head
      have fired := (agenda.reach timer.deadline).fired timer
      have watched := inductionHypothesis (fired.orderly (orderly.reach least))
      rw [runTo_cons head, if_pos due]
      exact .fire timer waits least due watched
  | case3 agenda timer rest head notDue =>
      rw [runTo_cons head, if_neg notDue]
      apply Watched.rest
      intro other member
      have least := orderly.head_least head other member
      omega

/-- A run that comes to a limit on its way to a later one is one run. -/
theorem runTo_runTo (agenda : Agenda) {first second : Nat} (le : first ≤ second) :
    agenda.runTo second =
      ((agenda.runTo first).1 ++ ((agenda.runTo first).2.runTo second).1,
        ((agenda.runTo first).2.runTo second).2) := by
  induction agenda using Agenda.runTo.induct first with
  | case1 agenda none =>
      have stillNone : (agenda.reach first).timers = [] := none
      rw [runTo_nil none, runTo_nil none, runTo_nil stillNone, reach_reach agenda le]
      rfl
  | case2 agenda timer rest head due occurrences final isRest inductionHypothesis =>
      rw [runTo_cons head first, runTo_cons head second, if_pos due,
        if_pos (Nat.le_trans due le)]
      simp only [inductionHypothesis, List.append_assoc]
  | case3 agenda timer rest head notDue =>
      have sameHead : (agenda.reach first).timers = timer :: rest := head
      have passed : first ≤ timer.deadline := by omega
      have sameClock : max (agenda.reach first).clock timer.deadline =
          max agenda.clock timer.deadline := congrArg clock (reach_reach agenda passed)
      rw [runTo_cons head first, if_neg notDue]
      simp only [List.nil_append]
      rw [runTo_cons head second, runTo_cons sameHead second, fireAt_reach agenda passed,
        sameClock, reach_reach agenda le]

/-- The clock has reached the limit when a run is over. -/
theorem clock_runTo {agenda : Agenda} {limit : Nat} (within : agenda.clock ≤ limit) :
    (agenda.runTo limit).2.clock = limit := by
  induction agenda using Agenda.runTo.induct limit with
  | case1 agenda none =>
      rw [runTo_nil none]
      exact Nat.max_eq_right within
  | case2 agenda timer rest head due occurrences final isRest inductionHypothesis =>
      have sameClock : (agenda.fireAt timer).2.clock = max agenda.clock timer.deadline :=
        ((agenda.reach timer.deadline).fired timer).clock_eq
      rw [runTo_cons head, if_pos due]
      exact inductionHypothesis (sameClock ▸ Nat.max_le.mpr ⟨within, due⟩)
  | case3 agenda timer rest head notDue =>
      rw [runTo_cons head, if_neg notDue]
      exact Nat.max_eq_right within

/-- Two runs one after the other do what one run of the same length does. -/
theorem run_add (agenda : Agenda) (first second : Nat) :
    agenda.run (first + second) =
      ((agenda.run first).1 ++ ((agenda.run first).2.run second).1,
        ((agenda.run first).2.run second).2) := by
  unfold run
  rw [clock_runTo (Nat.le_add_right _ _), ← Nat.add_assoc]
  exact agenda.runTo_runTo (Nat.le_add_right _ _)

end Agenda

end ContactPlan
