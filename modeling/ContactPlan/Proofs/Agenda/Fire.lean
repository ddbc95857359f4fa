import ContactPlan.Proofs.Agenda.Sound

namespace ContactPlan

namespace Tracked

variable {before after : List Tracked} (found : Tracked)

/-- Only the contact that is meant changes its phase. -/
theorem map_change_split (others : ∀ other ∈ before ++ after, ¬other.contact.Same found.contact)
    (step : Phase → Phase) :
    ((before ++ found :: after).map fun tracked => tracked.change found.contact step) =
      before ++ ⟨found.contact, step found.phase⟩ :: after := by
  have unchanged (part : List Tracked) (within : ∀ other ∈ part, other ∈ before ++ after) :
      (part.map fun tracked => tracked.change found.contact step) = part := by
    refine Eq.trans (List.map_congr_left ?_) (List.map_id part)
    exact fun other member => change_other (others other (within other member)) step
  rw [List.map_append, List.map_cons, change_same (Contact.Same.refl _),
    unchanged before fun _ => List.mem_append_left _,
    unchanged after fun _ => List.mem_append_right _]

/-- Only the contact that is meant is removed. -/
theorem filter_split (others : ∀ other ∈ before ++ after, ¬other.contact.Same found.contact) :
    ((before ++ found :: after).filter fun tracked =>
      !decide (tracked.contact.Same found.contact)) = before ++ after := by
  have kept (part : List Tracked) (within : ∀ other ∈ part, other ∈ before ++ after) :
      (part.filter fun tracked => !decide (tracked.contact.Same found.contact)) = part := by
    apply List.filter_eq_self.mpr
    intro other member
    simpa using others other (within other member)
  rw [List.filter_append, List.filter_cons_of_neg (by simp [Contact.Same.refl]),
    kept before fun _ => List.mem_append_left _, kept after fun _ => List.mem_append_right _]

/-- Only the contact that is meant is found. -/
theorem find_split (others : ∀ other ∈ before ++ after, ¬other.contact.Same found.contact) :
    ((before ++ found :: after).find? fun tracked => tracked.contact.Same found.contact) =
      some found := by
  rw [List.find?_append, List.find?_cons_of_pos (by simp [Contact.Same.refl])]
  have absent : (before.find? fun tracked => tracked.contact.Same found.contact) = none := by
    apply List.find?_eq_none.mpr
    intro other member
    simpa using others other (List.mem_append_left _ member)
  rw [absent]
  rfl

/-- The events ahead of one contact may be counted before those of the others. -/
theorem perm_ahead_split (before after : List Tracked) (found : Tracked) :
    ((before ++ found :: after).flatMap ahead).Perm
      (found.ahead ++ (before ++ after).flatMap ahead) := by
  simp only [List.flatMap_append, List.flatMap_cons]
  rw [← List.append_assoc, ← List.append_assoc]
  exact List.perm_append_comm.append_right _

end Tracked

namespace Agenda

theorem standings_split {agenda : Agenda} {before after : List Tracked} {found : Tracked}
    (split : agenda.tracked = before ++ found :: after) :
    agenda.standings =
      before.map Tracked.standing ++ found.standing :: after.map Tracked.standing := by
  rw [standings, split, List.map_append, List.map_cons]

/-- The phase of a contact is the one that it is tracked with. -/
theorem Lacks.phase?_split {agenda : Agenda} {missing : List Event} (lacks : agenda.Lacks missing)
    {before after : List Tracked} {contact : Contact} {phase : Phase}
    (split : agenda.tracked = before ++ ⟨contact, phase⟩ :: after) :
    agenda.phase? contact = some phase := by
  rw [phase?, split, Tracked.find_split ⟨contact, phase⟩ (lacks.others split)]
  rfl

/-- An event is not missing any more when its contact has no opening and one event less ahead. -/
theorem Lacks.settle {agenda : Agenda} {event : Event} {missing : List Event}
    (lacks : agenda.Lacks (event :: missing)) (next : Agenda) {before middle after : List Tracked}
    {found : Tracked} (split : agenda.tracked = before ++ found :: after)
    (sameTimers : next.timers = agenda.timers) (sameKey : next.nextKey = agenda.nextKey)
    (tracked : next.tracked = before ++ middle ++ after)
    (distinct : Standing.Distinct next.standings)
    (opened : ∀ tracked ∈ middle, tracked.phase = .opened)
    (ahead : found.ahead = event :: middle.flatMap Tracked.ahead) : next.Lacks missing := by
  have cases {other : Tracked} (member : other ∈ next.tracked) :
      other.phase = .opened ∨ other ∈ before ++ after := by
    rw [tracked, List.append_assoc] at member
    rcases List.mem_append.mp member with inBefore | inRest
    · exact .inr (List.mem_append_left _ inBefore)
    · exact (List.mem_append.mp inRest).imp (opened other) (List.mem_append_right _)
  constructor
  case keyed =>
    constructor
    · rw [sameTimers]
      exact lacks.keyed.distinct
    · rw [sameTimers, sameKey]
      exact lacks.keyed.below
  case distinct => exact distinct
  case agrees =>
    intro other member
    rcases cases member with isOpened | within
    · rw [isOpened]
      rfl
    · exact lacks.agrees other (mem_tracked_of_others split within)
  case ahead =>
    have old : (event :: (missing ++ agenda.events)).Perm
        (event :: (middle.flatMap Tracked.ahead ++ (before ++ after).flatMap Tracked.ahead)) := by
      have perm := lacks.ahead
      rw [split] at perm
      have moved := perm.trans (Tracked.perm_ahead_split before after found)
      rw [ahead] at moved
      exact moved
    have sameEvents : next.events = agenda.events := by rw [events, sameTimers, events]
    rw [sameEvents, tracked]
    refine (List.Perm.cons_inv old).trans ?_
    simp only [List.flatMap_append]
    rw [← List.append_assoc]
    exact List.perm_append_comm.append_right _
  case openings =>
    intro other member key awaiting
    have isOther : other ∈ before ++ after := by
      refine (cases member).resolve_left fun isOpened => ?_
      rw [isOpened] at awaiting
      cases awaiting
    have holds := lacks.openings other (mem_tracked_of_others split isOther) key awaiting
    rw [Holds, sameTimers]
    refine holds.imp_left fun isMissing => (List.mem_cons.mp isMissing).resolve_left ?_
    intro equal
    have isAhead : event ∈ found.ahead := ahead ▸ List.mem_cons_self
    have sameContact : other.contact = found.contact := by
      rw [← Tracked.contact_of_mem_ahead isAhead, ← equal]
    exact lacks.others split other isOther (congrArg Contact.canonical sameContact)

/-- A missing opening is not missing any more when its contact has opened. -/
theorem Lacks.markOpened {agenda : Agenda} {missing : List Event} {contact : Contact}
    (lacks : agenda.Lacks (⟨contact, .opening⟩ :: missing)) :
    (agenda.markOpened contact).Lacks missing ∧
      Standing.Turn agenda.standings [.delivered ⟨contact, .opening⟩]
        (agenda.markOpened contact).standings := by
  obtain ⟨before, key, after, split⟩ := lacks.split_opening
  have opened : (agenda.markOpened contact).tracked = before ++ ⟨contact, .opened⟩ :: after := by
    change (agenda.tracked.map fun tracked => tracked.change contact fun _ => .opened) = _
    rw [split]
    exact Tracked.map_change_split ⟨contact, .awaiting key⟩ (lacks.others split) _
  have distinct := lacks.distinct
  rw [standings_split split] at distinct
  constructor
  · have inMiddle : (agenda.markOpened contact).tracked =
        before ++ [⟨contact, .opened⟩] ++ after := by
      rw [opened, List.append_assoc]
      rfl
    refine lacks.settle (agenda.markOpened contact) split rfl rfl inMiddle ?_ ?_ rfl
    · rw [standings_split opened]
      exact distinct.replace rfl
    · intro tracked member
      rw [List.mem_singleton.mp member]
  · rw [standings_split split, standings_split opened]
    exact .openUp _ contact _

/-- A missing closing is not missing any more when its contact is forgotten. -/
theorem Lacks.forget {agenda : Agenda} {missing : List Event} {contact : Contact}
    (lacks : agenda.Lacks (⟨contact, .closing⟩ :: missing))
    (isOpened : agenda.phase? contact = some .opened) :
    (agenda.forget contact).Lacks missing ∧
      Standing.Turn agenda.standings [.delivered ⟨contact, .closing⟩]
        (agenda.forget contact).standings := by
  obtain ⟨before, ⟨tracked, phase⟩, after, split, isAhead⟩ := lacks.split
  have others := lacks.others split
  cases Tracked.contact_of_mem_ahead isAhead
  cases Option.some.inj ((lacks.phase?_split split).symm.trans isOpened)
  have remaining : (agenda.forget contact).tracked = before ++ after := by
    change (agenda.tracked.filter fun tracked => !decide (tracked.contact.Same contact)) = _
    rw [split]
    exact Tracked.filter_split ⟨contact, .opened⟩ others
  have remainingStandings : (agenda.forget contact).standings =
      before.map Tracked.standing ++ after.map Tracked.standing := by
    rw [standings, remaining, List.map_append]
  have distinct := lacks.distinct
  rw [standings_split split] at distinct
  constructor
  · have noMiddle : (agenda.forget contact).tracked = before ++ [] ++ after := by
      rw [remaining, List.append_nil]
    refine lacks.settle (agenda.forget contact) split rfl rfl noMiddle ?_ ?_ rfl
    · rw [remainingStandings]
      exact distinct.remove
    · intro tracked member
      cases member
  · rw [standings_split split, remainingStandings]
    exact .close _ contact _

/-- No contact stands otherwise because of a new timer for its opening. -/
theorem standings_change_await (agenda : Agenda) (contact : Contact) (key : Nat) :
    (agenda.change contact (Phase.await key)).standings = agenda.standings := by
  change (agenda.tracked.map _).map Tracked.standing = agenda.tracked.map Tracked.standing
  rw [List.map_map]
  exact List.map_congr_left fun tracked _ => (tracked.change_await contact key).2

/-- Only the contact of a missing opening learns the new timer. -/
theorem Lacks.tracked_await {agenda : Agenda} {missing : List Event} {contact : Contact}
    (lacks : agenda.Lacks (⟨contact, .opening⟩ :: missing)) (key : Nat) :
    ∃ before old after, agenda.tracked = before ++ ⟨contact, .awaiting old⟩ :: after ∧
      (agenda.change contact (Phase.await key)).tracked =
        before ++ ⟨contact, .awaiting key⟩ :: after := by
  obtain ⟨before, old, after, split⟩ := lacks.split_opening
  refine ⟨before, old, after, split, ?_⟩
  change (agenda.tracked.map fun tracked => tracked.change contact (Phase.await key)) = _
  rw [split]
  exact Tracked.map_change_split ⟨contact, .awaiting old⟩ (lacks.others split) _

/-- A missing opening is not missing any more when it is armed and its contact knows the timer. -/
theorem Lacks.arm_opening {agenda : Agenda} {missing : List Event} {contact : Contact}
    (lacks : agenda.Lacks (⟨contact, .opening⟩ :: missing)) (delay : Nat) :
    ((agenda.arm ⟨contact, .opening⟩ delay).change contact
      (Phase.await agenda.nextKey)).Lacks missing := by
  obtain ⟨before, old, after, split, known⟩ := lacks.tracked_await agenda.nextKey
  have others := lacks.others split
  have cases {tracked : Tracked}
      (member : tracked ∈ before ++ ⟨contact, .awaiting agenda.nextKey⟩ :: after) :
      tracked = ⟨contact, .awaiting agenda.nextKey⟩ ∨ tracked ∈ before ++ after := by
    simpa only [List.mem_append, List.mem_cons, or_left_comm] using member
  constructor
  case keyed => exact ⟨(lacks.keyed.arm _ delay).distinct, (lacks.keyed.arm _ delay).below⟩
  case distinct =>
    rw [standings_change_await]
    exact lacks.distinct
  case agrees =>
    intro tracked member
    rcases cases (known ▸ member) with rfl | within
    · rfl
    · exact lacks.agrees tracked (mem_tracked_of_others split within)
  case ahead =>
    have moved := (agenda.events_arm ⟨contact, .opening⟩ delay).append_left missing
    change (missing ++ (agenda.arm _ delay).events).Perm ((agenda.tracked.map _).flatMap _)
    rw [List.flatMap_map,
      List.flatMap_congr fun tracked _ => (tracked.change_await contact agenda.nextKey).1]
    exact (moved.trans List.perm_middle).trans lacks.ahead
  case openings =>
    intro tracked member key awaiting
    rcases cases (known ▸ member) with rfl | within
    · cases awaiting
      exact .inr (agenda.holds_arm _ delay)
    · have wasTracked := mem_tracked_of_others split within
      rcases lacks.openings tracked wasTracked key awaiting with isMissing | holds
      · refine .inl ((List.mem_cons.mp isMissing).resolve_left fun equal => ?_)
        exact others tracked within
          (congrArg (Contact.canonical ∘ Event.contact) equal)
      · exact .inr (holds.arm _ delay)

end Agenda

/-- What is handed out is noted. -/
def Note.ofOutcome (outcome : Option Event) : List Note := (outcome.map Note.delivered).toList

namespace Agenda

/-- A timer that has to wait on leaves the ledger as it is. -/
theorem Lacks.rearm {agenda : Agenda} {timer : Timer} (lacks : agenda.Lacks [timer.event]) :
    (agenda.rearm timer).Sound ∧ (agenda.rearm timer).standings = agenda.standings := by
  obtain ⟨key, ⟨contact, boundary⟩, deadline, remaining⟩ := timer
  cases boundary with
  | opening => exact ⟨lacks.arm_opening remaining, standings_change_await _ contact _⟩
  | closing => exact ⟨lacks.arm_closing remaining, rfl⟩

/-- A contact that knows a timer for its opening when its closing comes has that timer. -/
theorem Lacks.holds_opening {agenda : Agenda} {contact : Contact} {hasOpened : Bool} {key : Nat}
    (lacks : agenda.Lacks [⟨contact, .closing⟩])
    (awaiting : agenda.phase? contact = some ⟨hasOpened, some key⟩) :
    agenda.Holds key ⟨contact, .opening⟩ := by
  obtain ⟨before, ⟨tracked, phase⟩, after, split, isAhead⟩ := lacks.split
  cases Tracked.contact_of_mem_ahead isAhead
  cases Option.some.inj ((lacks.phase?_split split).symm.trans awaiting)
  have isTracked : ⟨contact, ⟨hasOpened, some key⟩⟩ ∈ agenda.tracked := mem_tracked_of_split split
  obtain rfl : false = hasOpened := lacks.agrees _ isTracked
  refine (lacks.openings _ isTracked key rfl).resolve_left fun isMissing => ?_
  cases List.mem_singleton.mp isMissing

/-- A closing that comes first opens its contact and is armed again. -/
theorem Lacks.openFirst {agenda : Agenda} {contact : Contact} {key : Nat}
    (lacks : agenda.Lacks [⟨contact, .closing⟩])
    (awaiting : agenda.phase? contact = some (.awaiting key)) :
    (agenda.openFirst contact key).Sound ∧
      Standing.Turn agenda.standings [.delivered ⟨contact, .opening⟩]
        (agenda.openFirst contact key).standings := by
  obtain ⟨timer, member, rfl, isOpening⟩ := lacks.holds_opening awaiting
  have disarmed := lacks.disarm member
  rw [isOpening] at disarmed
  have armed := (disarmed.perm (List.Perm.swap _ _ _)).arm_closing 0
  exact armed.markOpened

/-- A closing hands out the opening of a contact that awaits it. -/
theorem close_awaiting {agenda : Agenda} {contact : Contact} {key : Nat}
    (awaiting : agenda.phase? contact = some (.awaiting key)) :
    agenda.close contact = (some ⟨contact, .opening⟩, agenda.openFirst contact key) := by
  unfold close
  rw [awaiting]

/-- A closing is handed out for a contact that has opened. -/
theorem close_opened {agenda : Agenda} {contact : Contact}
    (opened : agenda.phase? contact = some .opened) :
    agenda.close contact = (some ⟨contact, .closing⟩, agenda.forget contact) := by
  unfold close
  rw [opened]

/-- A closing that is handed out belongs to a tracked contact. -/
theorem Lacks.close {agenda : Agenda} {contact : Contact}
    (lacks : agenda.Lacks [⟨contact, .closing⟩]) :
    (agenda.close contact).2.Sound ∧
      Standing.Turn agenda.standings (Note.ofOutcome (agenda.close contact).1)
        (agenda.close contact).2.standings := by
  obtain ⟨before, ⟨tracked, phase⟩, after, split, isAhead⟩ := lacks.split
  cases Tracked.contact_of_mem_ahead isAhead
  have isFound : agenda.phase? contact = some phase := lacks.phase?_split split
  rcases (lacks.agrees _ (mem_tracked_of_split split)).cases with ⟨opening, rfl⟩ | rfl
  · rw [close_awaiting isFound]
    exact lacks.openFirst isFound
  · rw [close_opened isFound]
    exact lacks.forget isFound

theorem fire_waiting {agenda : Agenda} {timer : Timer} (waits : timer.remaining ≠ 0) :
    agenda.fire timer = (none, (agenda.disarm timer.key).rearm timer) := by
  unfold Agenda.fire
  rw [if_pos waits]

/-- A timer with nothing left to wait for opens or closes its contact. -/
theorem fire_due {agenda : Agenda} {timer : Timer} (due : timer.remaining = 0) :
    agenda.fire timer =
      match timer.event.boundary with
      | .opening =>
          (some timer.event, (agenda.disarm timer.key).markOpened timer.event.contact)
      | .closing => (agenda.disarm timer.key).close timer.event.contact := by
  unfold Agenda.fire
  exact if_neg (not_not.mpr due)

/-- Whatever timer is handed out, the agenda stays sound and its ledger takes one turn. -/
theorem Sound.fire {agenda : Agenda} (sound : agenda.Sound) {timer : Timer}
    (member : timer ∈ agenda.timers) :
    (agenda.fire timer).2.Sound ∧
      Standing.Turn agenda.standings (Note.ofOutcome (agenda.fire timer).1)
        (agenda.fire timer).2.standings := by
  have lacks : (agenda.disarm timer.key).Lacks [timer.event] := Lacks.disarm sound member
  by_cases waits : timer.remaining ≠ 0
  · rw [fire_waiting waits]
    obtain ⟨rearmed, unchanged⟩ := lacks.rearm
    change Agenda.Sound _ ∧ Standing.Turn agenda.standings [] (Agenda.rearm _ timer).standings
    rw [unchanged]
    exact ⟨rearmed, .idle _⟩
  · rw [fire_due (not_not.mp waits)]
    obtain ⟨key, ⟨contact, boundary⟩, deadline, remaining⟩ := timer
    cases boundary with
    | opening => exact lacks.markOpened
    | closing => exact lacks.close

end Agenda

end ContactPlan
