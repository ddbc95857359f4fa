import ContactPlan.Proofs.Agenda.Keys
import ContactPlan.Proofs.Agenda.Ledger

namespace ContactPlan

/-- A contact knows a timer for its opening exactly as long as it has not opened. -/
def Phase.Agrees (phase : Phase) : Prop := phase.opening?.isNone = phase.hasOpened

/-- There are only two phases in which the timer agrees with the opening. -/
theorem Phase.Agrees.cases {phase : Phase} (agrees : phase.Agrees) :
    (∃ key, phase = .awaiting key) ∨ phase = .opened := by
  obtain ⟨hasOpened, opening⟩ := phase
  cases opening with
  | none =>
      cases agrees
      exact .inr rfl
  | some key =>
      cases agrees
      exact .inl ⟨key, rfl⟩

namespace Tracked

/-- The events of a tracked contact that are still to come. -/
def ahead (tracked : Tracked) : List Event :=
  if tracked.phase.hasOpened then [⟨tracked.contact, .closing⟩]
  else [⟨tracked.contact, .opening⟩, ⟨tracked.contact, .closing⟩]

/-- It does not matter for the standing which timer a contact waits for. -/
def standing (tracked : Tracked) : Standing := ⟨tracked.contact, tracked.phase.hasOpened⟩

theorem ahead_awaiting (contact : Contact) (key : Nat) :
    (Tracked.mk contact (.awaiting key)).ahead = [⟨contact, .opening⟩, ⟨contact, .closing⟩] := rfl

/-- Every event ahead carries the contact as it is tracked. -/
theorem contact_of_mem_ahead {tracked : Tracked} {event : Event} (member : event ∈ tracked.ahead) :
    event.contact = tracked.contact := by
  unfold ahead at member
  split at member
  · rw [List.mem_singleton.mp member]
  · rcases List.mem_pair.mp member with rfl | rfl <;> rfl

/-- A contact with its opening ahead knows a timer for it. -/
theorem awaiting_of_opening_mem_ahead {tracked : Tracked} {contact : Contact}
    (agrees : tracked.phase.Agrees) (member : ⟨contact, .opening⟩ ∈ tracked.ahead) :
    ∃ key, tracked = ⟨contact, .awaiting key⟩ := by
  have equal := contact_of_mem_ahead member
  obtain ⟨tracked, phase⟩ := tracked
  cases equal
  rcases agrees.cases with ⟨key, rfl⟩ | rfl
  · exact ⟨key, rfl⟩
  · cases List.mem_singleton.mp member

/-- A change applies to the contact that is meant. -/
theorem change_same {tracked : Tracked} {contact : Contact} (same : tracked.contact.Same contact)
    (step : Phase → Phase) :
    tracked.change contact step = ⟨tracked.contact, step tracked.phase⟩ := by
  simp only [change, if_pos same]

/-- A change leaves every other contact alone. -/
theorem change_other {tracked : Tracked} {contact : Contact}
    (other : ¬tracked.contact.Same contact) (step : Phase → Phase) :
    tracked.change contact step = tracked := by
  simp only [change, if_neg other]

/-- A new timer for the opening changes neither what is ahead nor the standing. -/
theorem change_await (tracked : Tracked) (contact : Contact) (key : Nat) :
    (tracked.change contact (Phase.await key)).ahead = tracked.ahead ∧
      (tracked.change contact (Phase.await key)).standing = tracked.standing := by
  by_cases same : tracked.contact.Same contact
  · rw [change_same same]
    exact ⟨rfl, rfl⟩
  · rw [change_other same]
    exact ⟨rfl, rfl⟩

end Tracked

namespace Agenda

def standings (agenda : Agenda) : List Standing := agenda.tracked.map Tracked.standing

/-- The timers wait for all events ahead except the missing ones.
Every opening that is not missing has the timer that its contact knows. -/
structure Lacks (agenda : Agenda) (missing : List Event) : Prop where
  keyed : agenda.Keyed
  distinct : Standing.Distinct agenda.standings
  agrees : ∀ tracked ∈ agenda.tracked, tracked.phase.Agrees
  ahead : (missing ++ agenda.events).Perm (agenda.tracked.flatMap Tracked.ahead)
  openings : ∀ tracked ∈ agenda.tracked, ∀ key, tracked.phase = .awaiting key →
    ⟨tracked.contact, .opening⟩ ∈ missing ∨ agenda.Holds key ⟨tracked.contact, .opening⟩

/-- Nothing is missing between two calls. -/
def Sound (agenda : Agenda) : Prop := agenda.Lacks []

/-- An empty agenda is sound. -/
theorem sound_empty : Sound Agenda.empty where
  keyed := ⟨List.nodup_nil, by simp [Agenda.empty]⟩
  distinct := List.Pairwise.nil
  agrees := by simp [Agenda.empty]
  ahead := .rfl
  openings := by simp [Agenda.empty]

/-- The order of the missing events does not matter. -/
theorem Lacks.perm {agenda : Agenda} {missing other : List Event} (lacks : agenda.Lacks missing)
    (perm : other.Perm missing) : agenda.Lacks other where
  keyed := lacks.keyed
  distinct := lacks.distinct
  agrees := lacks.agrees
  ahead := (perm.append_right _).trans lacks.ahead
  openings tracked member key awaiting :=
    (lacks.openings tracked member key awaiting).imp_left perm.mem_iff.mpr

/-- The event of a timer that is disarmed is missing. -/
theorem Lacks.disarm {agenda : Agenda} {missing : List Event} (lacks : agenda.Lacks missing)
    {timer : Timer} (member : timer ∈ agenda.timers) :
    (agenda.disarm timer.key).Lacks (timer.event :: missing) where
  keyed := lacks.keyed.disarm timer.key
  distinct := lacks.distinct
  agrees := lacks.agrees
  ahead := by
    have moved := (lacks.keyed.events_disarm member).append_left missing
    exact (List.perm_middle.symm.trans moved.symm).trans lacks.ahead
  openings := by
    intro tracked isTracked key awaiting
    rcases lacks.openings tracked isTracked key awaiting with isMissing | holds
    · exact .inl (List.mem_cons_of_mem _ isMissing)
    · by_cases equal : key = timer.key
      · subst equal
        rw [lacks.keyed.event_unique member holds]
        exact .inl List.mem_cons_self
      · exact .inr (holds.disarm equal)

/-- A closing is not missing any more when it is armed. -/
theorem Lacks.arm_closing {agenda : Agenda} {missing : List Event} {contact : Contact}
    (lacks : agenda.Lacks (⟨contact, .closing⟩ :: missing)) (delay : Nat) :
    (agenda.arm ⟨contact, .closing⟩ delay).Lacks missing where
  keyed := lacks.keyed.arm _ delay
  distinct := lacks.distinct
  agrees := lacks.agrees
  ahead := by
    have moved := (agenda.events_arm ⟨contact, .closing⟩ delay).append_left missing
    exact (moved.trans List.perm_middle).trans lacks.ahead
  openings := by
    intro tracked isTracked key awaiting
    rcases lacks.openings tracked isTracked key awaiting with isMissing | holds
    · rcases List.mem_cons.mp isMissing with isClosing | isMissing
      · cases isClosing
      · exact .inl isMissing
    · exact .inr (holds.arm _ delay)

/-- An event ahead belongs to a tracked contact. -/
theorem split_of_mem_ahead {agenda : Agenda} {event : Event}
    (member : event ∈ agenda.tracked.flatMap Tracked.ahead) :
    ∃ before found after, agenda.tracked = before ++ found :: after ∧ event ∈ found.ahead := by
  obtain ⟨found, isTracked, isAhead⟩ := List.mem_flatMap.mp member
  obtain ⟨before, after, split⟩ := List.append_of_mem isTracked
  exact ⟨before, found, after, split, isAhead⟩

/-- A missing event belongs to a tracked contact. -/
theorem Lacks.split {agenda : Agenda} {event : Event} {missing : List Event}
    (lacks : agenda.Lacks (event :: missing)) :
    ∃ before found after, agenda.tracked = before ++ found :: after ∧ event ∈ found.ahead :=
  split_of_mem_ahead (lacks.ahead.mem_iff.mp List.mem_cons_self)

/-- The contact at which the tracked ones are parted is tracked. -/
theorem mem_tracked_of_split {agenda : Agenda} {before after : List Tracked} {found : Tracked}
    (split : agenda.tracked = before ++ found :: after) : found ∈ agenda.tracked := by
  rw [split]
  exact List.mem_append_right _ List.mem_cons_self

/-- The contacts on both sides of it are tracked as well. -/
theorem mem_tracked_of_others {agenda : Agenda} {before after : List Tracked}
    {found other : Tracked} (split : agenda.tracked = before ++ found :: after)
    (within : other ∈ before ++ after) : other ∈ agenda.tracked := by
  rw [split]
  exact (List.Sublist.append_left (List.sublist_cons_self found after) before).subset within

/-- A missing opening belongs to a contact that knows a timer for it. -/
theorem Lacks.split_opening {agenda : Agenda} {contact : Contact} {missing : List Event}
    (lacks : agenda.Lacks (⟨contact, .opening⟩ :: missing)) :
    ∃ before key after, agenda.tracked = before ++ ⟨contact, .awaiting key⟩ :: after := by
  obtain ⟨before, found, after, split, isAhead⟩ := lacks.split
  have agrees := lacks.agrees found (mem_tracked_of_split split)
  obtain ⟨key, rfl⟩ := Tracked.awaiting_of_opening_mem_ahead agrees isAhead
  exact ⟨before, key, after, split⟩

/-- No contact is tracked twice. -/
theorem Lacks.others {agenda : Agenda} {missing : List Event} (lacks : agenda.Lacks missing)
    {before after : List Tracked} {found : Tracked}
    (split : agenda.tracked = before ++ found :: after) :
    ∀ other ∈ before ++ after, ¬other.contact.Same found.contact := by
  have distinct := lacks.distinct
  rw [standings, split, List.map_append, List.map_cons] at distinct
  intro other member
  apply distinct.others other.standing
  rw [← List.map_append]
  exact List.mem_map_of_mem member

end Agenda

end ContactPlan
