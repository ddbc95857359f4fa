import ContactPlan.Agenda.Run
import Mathlib.Data.List.Nodup

namespace ContactPlan

theorem Timer.perm_insertInto (timer : Timer) (timers : List Timer) :
    (timer.insertInto timers).Perm (timer :: timers) := by
  induction timers with
  | nil => exact .rfl
  | cons head rest inductionHypothesis =>
      simp only [insertInto]
      split
      · exact (inductionHypothesis.cons head).trans (.swap timer head rest)
      · exact .rfl

/-- A timer joins the others, whether it overtakes them or not. -/
theorem Timer.perm_enqueue (timer : Timer) (delay : Nat) (timers : List Timer) :
    (timer.enqueue delay timers).Perm (timer :: timers) := by
  unfold enqueue
  split
  · exact .rfl
  · exact timer.perm_insertInto timers

/-- Only one of several timers with different keys is taken off by its key. -/
theorem Timer.perm_filter_key {timers : List Timer} {timer : Timer}
    (distinct : (timers.map Timer.key).Nodup) (member : timer ∈ timers) :
    timers.Perm (timer :: timers.filter fun other => other.key ≠ timer.key) := by
  induction timers with
  | nil => cases member
  | cons head rest inductionHypothesis =>
      obtain ⟨headFresh, restDistinct⟩ := List.nodup_cons.mp distinct
      rcases List.mem_cons.mp member with rfl | inRest
      · have kept : rest.filter (fun other => other.key ≠ timer.key) = rest := by
          apply List.filter_eq_self.mpr
          intro other inRest
          have different : other.key ≠ timer.key :=
            fun equal => headFresh (equal ▸ List.mem_map_of_mem inRest)
          simpa using different
        rw [List.filter_cons_of_neg (by simp), kept]
      · have different : head.key ≠ timer.key :=
          fun equal => headFresh (equal ▸ List.mem_map_of_mem inRest)
        rw [List.filter_cons_of_pos (by simpa using different)]
        exact ((inductionHypothesis restDistinct inRest).cons head).trans (.swap timer head _)

namespace Agenda

/-- The events that the timers of an agenda wait for. -/
def events (agenda : Agenda) : List Event := agenda.timers.map Timer.event

/-- A key is held when a timer with it waits for the event. -/
def Holds (agenda : Agenda) (key : Nat) (event : Event) : Prop :=
  ∃ timer ∈ agenda.timers, timer.key = key ∧ timer.event = event

/-- No two timers share a key, and the next key is new. -/
structure Keyed (agenda : Agenda) : Prop where
  distinct : (agenda.timers.map Timer.key).Nodup
  below : ∀ timer ∈ agenda.timers, timer.key < agenda.nextKey

/-- The event of an armed timer joins the events that are waited for. -/
theorem events_arm (agenda : Agenda) (event : Event) (delay : Nat) :
    (agenda.arm event delay).events.Perm (event :: agenda.events) :=
  (Timer.perm_enqueue _ delay agenda.timers).map Timer.event

/-- An armed timer is the only new one. -/
theorem mem_timers_arm {agenda : Agenda} {event : Event} {delay : Nat} {timer : Timer} :
    timer ∈ (agenda.arm event delay).timers ↔
      timer = Timer.start agenda.nextKey event agenda.clock delay ∨ timer ∈ agenda.timers :=
  ((Timer.perm_enqueue _ delay agenda.timers).mem_iff).trans List.mem_cons

/-- The key of an armed timer has not been given out before. -/
theorem Keyed.arm {agenda : Agenda} (keyed : agenda.Keyed) (event : Event) (delay : Nat) :
    (agenda.arm event delay).Keyed := by
  constructor
  · apply (((Timer.perm_enqueue _ delay agenda.timers).map Timer.key).nodup_iff).mpr
    refine List.nodup_cons.mpr ⟨?_, keyed.distinct⟩
    intro member
    obtain ⟨timer, isTimer, equal⟩ := List.mem_map.mp member
    exact Nat.lt_irrefl _ (equal ▸ keyed.below timer isTimer)
  · intro timer member
    rcases mem_timers_arm.mp member with rfl | old
    · exact Nat.lt_succ_self _
    · exact Nat.lt_succ_of_lt (keyed.below timer old)

theorem Keyed.disarm {agenda : Agenda} (keyed : agenda.Keyed) (key : Nat) :
    (agenda.disarm key).Keyed := by
  constructor
  · exact List.Nodup.sublist (List.filter_sublist.map Timer.key) keyed.distinct
  · intro timer member
    exact keyed.below timer (List.mem_filter.mp member).1

/-- Only the event of the disarmed timer is not waited for any more. -/
theorem Keyed.events_disarm {agenda : Agenda} (keyed : agenda.Keyed) {timer : Timer}
    (member : timer ∈ agenda.timers) :
    agenda.events.Perm (timer.event :: (agenda.disarm timer.key).events) :=
  (Timer.perm_filter_key keyed.distinct member).map Timer.event

theorem Holds.arm {agenda : Agenda} {key : Nat} {event : Event} (holds : agenda.Holds key event)
    (other : Event) (delay : Nat) : (agenda.arm other delay).Holds key event := by
  obtain ⟨timer, member, isHeld⟩ := holds
  exact ⟨timer, mem_timers_arm.mpr (.inr member), isHeld⟩

/-- An armed timer is there under the next key. -/
theorem holds_arm (agenda : Agenda) (event : Event) (delay : Nat) :
    (agenda.arm event delay).Holds agenda.nextKey event :=
  ⟨_, mem_timers_arm.mpr (.inl rfl), rfl, rfl⟩

/-- A timer stays where it is when one with another key is disarmed. -/
theorem Holds.disarm {agenda : Agenda} {key other : Nat} {event : Event}
    (holds : agenda.Holds key event) (different : key ≠ other) :
    (agenda.disarm other).Holds key event := by
  obtain ⟨timer, member, rfl, isEvent⟩ := holds
  exact ⟨timer, List.mem_filter.mpr ⟨member, by simpa using different⟩, rfl, isEvent⟩

/-- A key belongs to one event only. -/
theorem Keyed.event_unique {agenda : Agenda} (keyed : agenda.Keyed) {timer : Timer}
    (member : timer ∈ agenda.timers) {event : Event} (holds : agenda.Holds timer.key event) :
    timer.event = event := by
  obtain ⟨other, otherMember, sameKey, rfl⟩ := holds
  have equal : other = timer :=
    List.inj_on_of_nodup_map keyed.distinct otherMember member sameKey
  rw [equal]

end Agenda

end ContactPlan
