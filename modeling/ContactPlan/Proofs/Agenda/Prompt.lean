import ContactPlan.Proofs.Agenda.Division

/-
This file follows sessions in which the clock moves on only while the agenda is watched.
Every event comes when it is due, and it does not matter how the time is divided into watches.
-/

namespace ContactPlan

namespace Mark

variable {bound : Nat → Nat → Prop} {marks : List Mark} {occurrences : List Occurrence}

/-- Deliveries do not change what an event has to meet. -/
theorem meets_deliveries {event : Event} {instant : Nat} :
    Meets bound (marks ++ occurrences.map .delivered) event instant ↔
      Meets bound marks event instant := by
  induction occurrences generalizing marks with
  | nil => simp
  | cons occurrence rest inductionHypothesis =>
      rw [List.map_cons, List.append_cons, inductionHypothesis, meets_delivered]

theorem Deliver.deliveries (deliver : Deliver bound marks)
    (meets : ∀ occurrence ∈ occurrences, Meets bound marks occurrence.event occurrence.instant) :
    Deliver bound (marks ++ occurrences.map .delivered) := by
  induction occurrences generalizing marks with
  | nil => simpa using deliver
  | cons occurrence rest inductionHypothesis =>
      rw [List.map_cons, List.append_cons]
      apply inductionHypothesis
      · exact deliver.delivered (meets occurrence List.mem_cons_self)
      · intro other member
        exact (meets_delivered occurrence).mpr (meets other (List.mem_cons_of_mem _ member))

/-- A registration is never among what is handed out. -/
theorem suffix_deliveries {registration : Registration} {after : List Mark}
    (isSuffix : .registered registration :: after <:+ marks ++ occurrences.map .delivered) :
    ∃ earlier, after = earlier ++ occurrences.map .delivered ∧
      .registered registration :: earlier <:+ marks := by
  obtain ⟨before, split⟩ := isSuffix
  have notDelivered : .registered registration ∉ occurrences.map Mark.delivered := by simp
  rcases List.append_eq_append_iff.mp split with
    ⟨between, rfl, whole⟩ | ⟨between, rfl, whole⟩
  · cases between with
    | nil =>
        rw [List.nil_append] at whole
        exact absurd (whole ▸ List.mem_cons_self) notDelivered
    | cons first rest =>
        obtain ⟨rfl, rfl⟩ := List.cons.inj whole
        exact ⟨rest, rfl, before, rfl⟩
  · refine absurd ?_ notDelivered
    rw [whole]
    exact List.mem_append_right _ List.mem_cons_self

/-- Everything that is due by the limit has been handed out at the time when it was due. -/
def Complete (limit : Nat) (marks : List Mark) : Prop :=
  ∀ registration after, .registered registration :: after <:+ marks → ∀ boundary,
    registration.due boundary ≤ limit →
      .delivered ⟨registration.due boundary, ⟨registration.contact, boundary⟩⟩ ∈ after

end Mark

namespace Agenda

/-- A session in which the clock moves on only in watches. -/
inductive Prompt : List Mark → Agenda → Prop where
  | start : Prompt [] Agenda.empty
  | register {marks : List Mark} {agenda : Agenda} (prompt : Prompt marks agenda)
      (set : ContactSet) (now : Instant) :
      Prompt (marks ++ Mark.ofReminders agenda.clock now (agenda.register set now).1)
        (agenda.register set now).2
  | registerContact {marks : List Mark} {agenda next : Agenda} {reminders : List Reminder}
      (prompt : Prompt marks agenda) (contact : Contact) (now : Instant)
      (accepted : agenda.registerContact? contact now = some (reminders, next)) :
      Prompt (marks ++ Mark.ofReminders agenda.clock now reminders) next
  | watch {marks : List Mark} {agenda final : Agenda} {occurrences : List Occurrence}
      (prompt : Prompt marks agenda) (milliseconds : Nat)
      (watched : agenda.Watched (agenda.clock + milliseconds) occurrences final) :
      Prompt (marks ++ occurrences.map .delivered) final

/-- In a watch the clock moves on to each deadline before the timer is handed out. -/
theorem Timed.watched {marks : List Mark} {limit : Nat} {agenda final : Agenda}
    {occurrences : List Occurrence} (timed : Timed marks agenda)
    (watched : agenda.Watched limit occurrences final) :
    Timed (marks ++ occurrences.map .delivered) final := by
  induction watched generalizing marks with
  | @fire agenda final occurrences timer waits least due watched inductionHypothesis =>
      have elapsed := timed.elapse (timer.deadline - agenda.clock)
      rw [← reach_eq_advance] at elapsed
      have fired := elapsed.fire timer waits (Nat.le_max_right _ _)
      have sameMarks : (((agenda.fireAt timer).1.map
          (Occurrence.mk (max agenda.clock timer.deadline))).toList).map Mark.delivered =
            Mark.ofOutcome (agenda.reach timer.deadline).clock (agenda.fireAt timer).1 := by
        cases (agenda.fireAt timer).1 <;> rfl
      rw [List.map_append, ← List.append_assoc, sameMarks]
      exact inductionHypothesis fired
  | @rest agenda later =>
      have elapsed := timed.elapse (limit - agenda.clock)
      rw [← reach_eq_advance] at elapsed
      simpa using elapsed

/-- A prompt session is a timed session as well. -/
theorem Prompt.timed {marks : List Mark} {agenda : Agenda} (prompt : Prompt marks agenda) :
    Timed marks agenda := by
  induction prompt with
  | start => exact .start
  | register _ set now timed => exact timed.register set now
  | registerContact _ contact now accepted timed =>
      exact timed.registerContact contact now accepted
  | watch _ milliseconds watched timed => exact timed.watched watched

/-- Whatever is registered has been handed out or has a timer that waits until it is due. -/
def Remembers (marks : List Mark) (agenda : Agenda) : Prop :=
  ∀ registration after, .registered registration :: after <:+ marks → ∀ boundary,
    .delivered ⟨registration.due boundary, ⟨registration.contact, boundary⟩⟩ ∈ after ∨
      ∃ timer ∈ agenda.timers, timer.event = ⟨registration.contact, boundary⟩ ∧
        timer.due = registration.due boundary

/-- A contact that is tracked gets timers without delay. -/
theorem Punctual.track {marks : List Mark} {agenda : Agenda} (punctual : agenda.Punctual marks)
    {contact : Contact} (accepts : agenda.accepts contact) (now : Instant) :
    (agenda.track contact now).Punctual
      (marks ++ [.registered ⟨contact, now, agenda.clock⟩]) :=
  ⟨(punctual.sound.track accepts now).1, punctual.orderly.track contact now,
    punctual.meets.track (fun _ => rfl) punctual.sound accepts now⟩

/-- The marks remember the contact that is tracked. -/
theorem Remembers.track {marks : List Mark} {agenda : Agenda} (remembers : agenda.Remembers marks)
    (contact : Contact) (now : Instant) :
    (agenda.track contact now).Remembers
      (marks ++ [.registered ⟨contact, now, agenda.clock⟩]) := by
  have stays {timer : Timer} (waits : timer ∈ agenda.timers) :
      timer ∈ (agenda.track contact now).timers :=
    mem_timers_arm.mpr (.inr (mem_timers_arm.mpr (.inr waits)))
  intro registration after isSuffix boundary
  rcases List.suffix_concat_iff.mp isSuffix with none | ⟨earlier, split, wasSuffix⟩
  · cases none
  · cases earlier with
    | nil =>
        cases split
        refine .inr ?_
        cases boundary with
        | opening =>
            exact ⟨_, mem_timers_arm.mpr (.inr (mem_timers_arm.mpr (.inl rfl))), rfl,
              Timer.due_start _ _ _ _⟩
        | closing => exact ⟨_, mem_timers_arm.mpr (.inl rfl), rfl, Timer.due_start _ _ _ _⟩
    | cons first rest =>
        cases split
        rcases remembers registration rest wasSuffix boundary with
          delivered | ⟨timer, waits, isTimer⟩
        · exact .inl (List.mem_append_left _ delivered)
        · exact .inr ⟨timer, stays waits, isTimer⟩

section Watches

variable {marks : List Mark} {limit : Nat} {agenda final : Agenda} {occurrences : List Occurrence}
  (watched : agenda.Watched limit occurrences final) (punctual : agenda.Punctual marks)
include watched punctual

/-- What is handed out is due at that very time. -/
theorem Watched.meets : ∀ occurrence ∈ occurrences,
    Mark.Meets (· = ·) marks occurrence.event occurrence.instant := by
  intro occurrence member
  have isResumed : occurrence.timer ∈ agenda.waits.map (Timer.resumed limit) :=
    (watched.waits punctual).mem_iff.mpr
      (List.mem_append_left _ (List.mem_map_of_mem member))
  obtain ⟨wait, isWait, equal⟩ := List.mem_map.mp isResumed
  obtain ⟨timer, waits, rfl⟩ := List.mem_map.mp isWait
  obtain ⟨sameEvent, sameDue⟩ := timer.unkeyed.event_due_resumed limit
  rw [equal] at sameEvent sameDue
  have meets := punctual.meets timer waits
  rw [show occurrence.event = timer.event from sameEvent,
    show occurrence.instant = timer.due from sameDue]
  exact meets

/-- The marks remember what a watch hands out. -/
theorem Watched.remembers (remembers : agenda.Remembers marks) :
    final.Remembers (marks ++ occurrences.map .delivered) := by
  intro registration after isSuffix boundary
  obtain ⟨earlier, rfl, wasSuffix⟩ := Mark.suffix_deliveries isSuffix
  rcases remembers registration earlier wasSuffix boundary with
    delivered | ⟨timer, waits, isEvent, isDue⟩
  · exact .inl (List.mem_append_left _ delivered)
  · obtain ⟨sameEvent, sameDue⟩ := timer.unkeyed.event_due_resumed limit
    have isResumed : timer.unkeyed.resumed limit ∈ agenda.waits.map (Timer.resumed limit) :=
      List.mem_map_of_mem (List.mem_map_of_mem waits)
    rcases List.mem_append.mp ((watched.waits punctual).mem_iff.mp isResumed) with
      isOccurrence | isWait
    · obtain ⟨occurrence, member, equal⟩ := List.mem_map.mp isOccurrence
      rw [← equal] at sameEvent sameDue
      have isEventDue : occurrence =
          ⟨registration.due boundary, ⟨registration.contact, boundary⟩⟩ := by
        rw [← isEvent, ← isDue]
        exact congrArg₂ Occurrence.mk sameDue sameEvent
      exact .inl (List.mem_append_right _ (isEventDue ▸ List.mem_map_of_mem member))
    · obtain ⟨other, otherWaits, equal⟩ := List.mem_map.mp isWait
      rw [← equal] at sameEvent sameDue
      exact .inr ⟨other, otherWaits, sameEvent.trans isEvent, sameDue.trans isDue⟩

end Watches

/-- A prompt session hands out every event at the time when it is due. -/
structure Keeps (marks : List Mark) (agenda : Agenda) : Prop where
  punctual : agenda.Punctual marks
  inTime : Mark.Deliver (· = ·) marks
  remembers : agenda.Remembers marks

theorem Keeps.track {marks : List Mark} {agenda : Agenda} {contact : Contact} {now : Instant}
    (keeps : agenda.Keeps marks) (accepts : agenda.accepts contact) :
    (agenda.track contact now).Keeps
      (marks ++ [.registered ⟨contact, now, agenda.clock⟩]) where
  punctual := keeps.punctual.track accepts now
  inTime := keeps.inTime.registered _
  remembers := keeps.remembers.track contact now

/-- What a prompt session keeps is kept during a watch. -/
theorem Keeps.watch {marks : List Mark} {limit : Nat} {agenda final : Agenda}
    {occurrences : List Occurrence} (keeps : agenda.Keeps marks)
    (watched : agenda.Watched limit occurrences final) :
    final.Keeps (marks ++ occurrences.map .delivered) := by
  have punctual := watched.punctual keeps.punctual
  refine ⟨⟨punctual.sound, punctual.orderly, ?_⟩, ?_, ?_⟩
  · exact fun timer member => Mark.meets_deliveries.mpr (punctual.meets timer member)
  · exact keeps.inTime.deliveries (watched.meets keeps.punctual)
  · exact watched.remembers keeps.punctual keeps.remembers

theorem keeps_empty : Agenda.empty.Keeps [] := by
  refine ⟨⟨sound_empty, ⟨by simp [Agenda.empty], List.Pairwise.nil⟩, ?_⟩, Mark.deliver_nil, ?_⟩
  · simp [Meets, Agenda.empty]
  · intro registration after isSuffix
    cases List.suffix_nil.mp isSuffix

/-- Every prompt session keeps its promises. -/
theorem Prompt.keeps {marks : List Mark} {agenda : Agenda} (prompt : Prompt marks agenda) :
    agenda.Keeps marks := by
  induction prompt with
  | start => exact keeps_empty
  | register _ set now keeps =>
      exact registerAll_preserves Keeps Keeps.track set.members keeps
  | registerContact _ contact now accepted keeps =>
      obtain ⟨accepts, rfl, rfl⟩ := registerContact?_eq_some accepted
      exact keeps.track accepts
  | watch _ milliseconds watched keeps => exact keeps.watch watched

/-- Nothing that is due is missing after a watch. -/
theorem Keeps.complete {marks : List Mark} {limit : Nat} {agenda final : Agenda}
    {occurrences : List Occurrence} (keeps : agenda.Keeps marks) (within : agenda.clock ≤ limit)
    (watched : agenda.Watched limit occurrences final) :
    Mark.Complete limit (marks ++ occurrences.map .delivered) := by
  intro registration after isSuffix boundary due
  have remembers := watched.remembers keeps.punctual keeps.remembers
  rcases remembers registration after isSuffix boundary with delivered | ⟨timer, waits, -, isDue⟩
  · exact delivered
  · have later := (watched.reaches within).2.1 timer waits
    unfold Timer.due at isDue
    omega

/-- An agenda is on time when every event has been handed out when it was due, when watches miss
nothing that is due, and when it does not matter how the time is divided into watches or runs. -/
structure OnTime (marks : List Mark) (agenda : Agenda) : Prop where
  inTime : Mark.Deliver (· = ·) marks
  complete : ∀ milliseconds occurrences final,
    agenda.Watched (agenda.clock + milliseconds) occurrences final →
      Mark.Complete (agenda.clock + milliseconds) (marks ++ occurrences.map .delivered)
  runs : ∀ milliseconds, agenda.Watched (agenda.clock + milliseconds)
    (agenda.run milliseconds).1 (agenda.run milliseconds).2
  divided : ∀ first second, agenda.run (first + second) =
    ((agenda.run first).1 ++ ((agenda.run first).2.run second).1,
      ((agenda.run first).2.run second).2)
  alike : ∀ first second earlier middle later final whole other,
    agenda.Watched (agenda.clock + first) earlier middle →
    middle.Watched (middle.clock + second) later final →
    agenda.Watched (agenda.clock + (first + second)) whole other →
      (earlier ++ later).Perm whole ∧ final.Alike other

theorem Keeps.onTime {marks : List Mark} {agenda : Agenda} (keeps : agenda.Keeps marks) :
    agenda.OnTime marks where
  inTime := keeps.inTime
  complete _ _ _ watched := keeps.complete (Nat.le_add_right _ _) watched
  runs _ := keeps.punctual.orderly.watched_runTo _
  divided := agenda.run_add
  alike first second earlier middle later final whole other watched continued watchedWhole := by
    rw [(watched.reaches (Nat.le_add_right _ _)).2.2, Nat.add_assoc] at continued
    have together := watched.append continued (by omega)
    exact together.alike watchedWhole keeps.punctual (Nat.le_add_right _ _)

/-- This contact begins exactly two of the longest waits after the clock reads zero. -/
def distant : Contact := { remote with start := 63072000000 }

end Agenda

end ContactPlan
