import ContactPlan.Agenda.Basic

namespace ContactPlan

/-- A timer that has to wait on gets a new key, and a contact learns the key of its opening. -/
def Agenda.rearm (agenda : Agenda) (timer : Timer) : Agenda :=
  let armed := agenda.arm timer.event timer.remaining
  match timer.event.boundary with
  | .opening => armed.change timer.event.contact (Phase.await agenda.nextKey)
  | .closing => armed

/-- A closing that comes before its opening hands out the opening and is armed again. -/
def Agenda.openFirst (agenda : Agenda) (contact : Contact) (opening : Nat) : Agenda :=
  ((agenda.disarm opening).arm ⟨contact, .closing⟩ 0).markOpened contact

/-- A closing without a tracked contact is dropped.
Whether its contact still waits for the opening is told by the timer that the contact knows. -/
def Agenda.close (agenda : Agenda) (contact : Contact) : Option Event × Agenda :=
  match agenda.phase? contact with
  | none => (none, agenda)
  | some ⟨_, some opening⟩ => (some ⟨contact, .opening⟩, agenda.openFirst contact opening)
  | some ⟨_, none⟩ => (some ⟨contact, .closing⟩, agenda.forget contact)

/-- Any timer that is due may be handed out, and it is taken off the agenda first. -/
def Agenda.fire (agenda : Agenda) (timer : Timer) : Option Event × Agenda :=
  let rest := agenda.disarm timer.key
  if timer.remaining ≠ 0 then (none, rest.rearm timer)
  else
    match timer.event.boundary with
    | .opening => (some timer.event, rest.markOpened timer.event.contact)
    | .closing => rest.close timer.event.contact

/-- The clock moves on to the deadline of a timer before the timer is handed out. -/
def Agenda.fireAt (agenda : Agenda) (timer : Timer) : Option Event × Agenda :=
  (agenda.reach timer.deadline).fire timer

/-- A contact that knows the timer of its opening can be made to open before it closes. -/
def Tracked.isAwaiting (tracked : Tracked) : Bool := tracked.phase.opening?.isSome

/-- What is left to wait for when the deadlines have come. -/
def Agenda.remaining (agenda : Agenda) : Nat := Timer.totalRemaining agenda.timers

/-- Every timer makes work, and so does every contact that knows the timer of its opening. -/
def Agenda.work (agenda : Agenda) : Nat :=
  agenda.timers.length + agenda.tracked.countP Tracked.isAwaiting

/-- A contact that still awaits its opening has not been marked. -/
theorem Tracked.isAwaiting_of_change_opened {tracked : Tracked} {contact : Contact}
    (awaits : (tracked.change contact fun _ => .opened).isAwaiting) : tracked.isAwaiting := by
  simp only [change] at awaits
  split at awaits
  · cases awaits
  · exact awaits

/-- Marking makes no contact await its opening. -/
theorem Tracked.countP_opened_le (tracked : List Tracked) (contact : Contact) :
    (tracked.map fun tracked => tracked.change contact fun _ => .opened).countP isAwaiting ≤
      tracked.countP isAwaiting := by
  rw [List.countP_map]
  exact List.countP_mono_left fun _ _ => isAwaiting_of_change_opened

/-- A contact that opens does not know a timer for it any more. -/
theorem Tracked.countP_opened_lt {tracked : List Tracked} {contact : Contact} {found : Tracked}
    (isFound : tracked.find? (fun tracked => tracked.contact.Same contact) = some found)
    (awaits : found.isAwaiting) :
    (tracked.map fun tracked => tracked.change contact fun _ => .opened).countP isAwaiting <
      tracked.countP isAwaiting := by
  have same : found.contact.Same contact := by simpa using List.find?_some isFound
  have opened : (found.change contact fun _ => .opened).isAwaiting = false := by
    simp [Tracked.change, same, isAwaiting]
  obtain ⟨before, after, rfl⟩ := List.append_of_mem (List.mem_of_find?_eq_some isFound)
  have beforeLe := Tracked.countP_opened_le before contact
  have afterLe := Tracked.countP_opened_le after contact
  simp only [List.map_append, List.map_cons, List.countP_append, List.countP_cons, opened, awaits,
    Bool.false_eq_true, if_false, if_true]
  omega

theorem Agenda.work_forget_le (agenda : Agenda) (contact : Contact) :
    (agenda.forget contact).work ≤ agenda.work :=
  Nat.add_le_add_left List.filter_sublist.countP_le _

theorem Agenda.work_markOpened_le (agenda : Agenda) (contact : Contact) :
    (agenda.markOpened contact).work ≤ agenda.work :=
  Nat.add_le_add_left (Tracked.countP_opened_le _ _) _

/-- A contact that has awaited its opening makes less work when it is marked. -/
theorem Agenda.work_markOpened_lt (agenda : Agenda) {contact : Contact} {phase : Phase}
    (isFound : agenda.phase? contact = some phase) (awaits : phase.opening?.isSome) :
    (agenda.markOpened contact).work < agenda.work := by
  obtain ⟨found, isTracked, rfl⟩ := Option.map_eq_some_iff.mp isFound
  exact Nat.add_lt_add_left (Tracked.countP_opened_lt isTracked awaits) _

/-- An armed timer adds what its delay leaves over after the first wait. -/
theorem Agenda.remaining_arm (agenda : Agenda) (event : Event) (delay : Nat) :
    (agenda.arm event delay).remaining = delay - Timer.wait delay + agenda.remaining :=
  Timer.totalRemaining_enqueue _ _ _

theorem Agenda.work_arm (agenda : Agenda) (event : Event) (delay : Nat) :
    (agenda.arm event delay).work = agenda.work + 1 := by
  simp only [work, arm, Timer.length_enqueue]
  omega

theorem Agenda.remaining_disarm_le (agenda : Agenda) (key : Nat) :
    (agenda.disarm key).remaining ≤ agenda.remaining :=
  Timer.totalRemaining_filter_le _ _

theorem Agenda.work_disarm_le (agenda : Agenda) (key : Nat) :
    (agenda.disarm key).work ≤ agenda.work :=
  Nat.add_le_add_right (List.length_filter_le _ _) _

/-- With a timer that is taken off goes what it had left to wait for. -/
theorem Agenda.remaining_disarm_add_le {agenda : Agenda} {timer : Timer}
    (member : timer ∈ agenda.timers) :
    (agenda.disarm timer.key).remaining + timer.remaining ≤ agenda.remaining :=
  Timer.totalRemaining_filter_add_le _ member (by simp)

/-- A timer that is taken off is one less to be handed out. -/
theorem Agenda.work_disarm_lt {agenda : Agenda} {timer : Timer}
    (member : timer ∈ agenda.timers) : (agenda.disarm timer.key).work < agenda.work :=
  Nat.add_lt_add_right
    (List.length_filter_lt_length_iff_exists.mpr ⟨timer, member, by simp⟩) _

/-- The next wait takes something off what is left to wait for. -/
theorem Agenda.remaining_rearm_lt (agenda : Agenda) {timer : Timer}
    (waits : timer.remaining ≠ 0) :
    (agenda.rearm timer).remaining < agenda.remaining + timer.remaining := by
  have armed := agenda.remaining_arm timer.event timer.remaining
  have positive : 0 < Timer.wait timer.remaining := by
    simp only [Timer.wait, Timer.longestWait]
    omega
  have sameRemaining : (agenda.rearm timer).remaining =
      (agenda.arm timer.event timer.remaining).remaining := by
    simp only [rearm]
    split <;> rfl
  omega

/-- A closing that opens its contact is armed again for a timer that is taken off. -/
theorem Agenda.lessens_close (agenda : Agenda) (contact : Contact) :
    (agenda.close contact).2.remaining ≤ agenda.remaining ∧
      (agenda.close contact).2.work ≤ agenda.work := by
  simp only [close]
  split
  · exact ⟨Nat.le_refl _, Nat.le_refl _⟩
  next opening isFound =>
    let armed := (agenda.disarm opening).arm ⟨contact, .closing⟩ 0
    have opened : (armed.markOpened contact).work < armed.work :=
      armed.work_markOpened_lt isFound rfl
    have armedWork : armed.work = _ := Agenda.work_arm _ ⟨contact, .closing⟩ 0
    have armedRemaining : armed.remaining = _ := Agenda.remaining_arm _ ⟨contact, .closing⟩ 0
    have disarmedWork := agenda.work_disarm_le opening
    have disarmedRemaining := agenda.remaining_disarm_le opening
    constructor
    · change armed.remaining ≤ _
      omega
    · change (armed.markOpened contact).work ≤ _
      omega
  · exact ⟨Nat.le_refl _, agenda.work_forget_le contact⟩

/-- A timer that is handed out leaves less to wait for, or no more to wait for and less work. -/
theorem Agenda.lessens_fire {agenda : Agenda} {timer : Timer} (member : timer ∈ agenda.timers) :
    (agenda.fire timer).2.remaining < agenda.remaining ∨
      (agenda.fire timer).2.remaining ≤ agenda.remaining ∧
        (agenda.fire timer).2.work < agenda.work := by
  have removed := Agenda.remaining_disarm_add_le member
  have removedWork := Agenda.work_disarm_lt member
  simp only [fire]
  split
  next waits =>
    have rearmed := (agenda.disarm timer.key).remaining_rearm_lt waits
    exact .inl (Nat.lt_of_lt_of_le rearmed removed)
  · refine .inr ?_
    split
    · have opened := (agenda.disarm timer.key).work_markOpened_le timer.event.contact
      exact ⟨agenda.remaining_disarm_le timer.key, Nat.lt_of_le_of_lt opened removedWork⟩
    · obtain ⟨remaining, work⟩ := (agenda.disarm timer.key).lessens_close timer.event.contact
      exact ⟨Nat.le_trans remaining (agenda.remaining_disarm_le timer.key),
        Nat.lt_of_le_of_lt work removedWork⟩

/-- Handing out the first timer is a step down, first in waiting and then in work. -/
theorem Agenda.lessens_fireAt_head {agenda : Agenda} {timer : Timer} {rest : List Timer}
    (head : agenda.timers = timer :: rest) :
    Prod.Lex (· < ·) (· < ·) ((agenda.fireAt timer).2.remaining, (agenda.fireAt timer).2.work)
      (agenda.remaining, agenda.work) := by
  have member : timer ∈ (agenda.reach timer.deadline).timers := head ▸ List.mem_cons_self
  have lessens := Agenda.lessens_fire member
  rw [Prod.lex_def]
  obtain remaining | ⟨remaining, work⟩ := lessens
  · exact .inl remaining
  · exact (Nat.lt_or_eq_of_le remaining).imp_right fun equal => ⟨equal, work⟩

/-- Timers are handed out until one of them is an event. -/
def Agenda.next? (agenda : Agenda) : Option (Event × Agenda) :=
  match _head : agenda.timers with
  | [] => none
  | timer :: _ =>
      match (agenda.fireAt timer).1 with
      | some event => some (event, (agenda.fireAt timer).2)
      | none => (agenda.fireAt timer).2.next?
termination_by (agenda.remaining, agenda.work)
decreasing_by exact Agenda.lessens_fireAt_head _head

/-- An event that is handed out at an instant of the clock. -/
structure Occurrence where
  instant : Nat
  event : Event
  deriving DecidableEq

/-- The clock stands at the limit at the end, when everything due until then has been handed out. -/
def Agenda.runTo (agenda : Agenda) (limit : Nat) : List Occurrence × Agenda :=
  match _head : agenda.timers with
  | [] => ([], agenda.reach limit)
  | timer :: _ =>
      if timer.deadline ≤ limit then
        let (occurrences, final) := (agenda.fireAt timer).2.runTo limit
        let occurrence := (agenda.fireAt timer).1.map
          (Occurrence.mk (max agenda.clock timer.deadline))
        (occurrence.toList ++ occurrences, final)
      else ([], agenda.reach limit)
termination_by (agenda.remaining, agenda.work)
decreasing_by exact Agenda.lessens_fireAt_head _head

/-- The agenda hands out what comes due while the clock moves on. -/
def Agenda.run (agenda : Agenda) (milliseconds : Nat) : List Occurrence × Agenda :=
  agenda.runTo (agenda.clock + milliseconds)

end ContactPlan
