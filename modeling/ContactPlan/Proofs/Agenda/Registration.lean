import ContactPlan.Proofs.Agenda.Timing
import ContactPlan.Proofs.Contact.Algebra

namespace ContactPlan

/-- Every contact gets two keys, and stands with the first of them. -/
def Contact.keyedFrom (key : Nat) : List Contact → List (Nat × Contact)
  | [] => []
  | contact :: rest => (key, contact) :: keyedFrom (key + 2) rest

/-- The opening has the first key of its contact and the closing the second. -/
def Contact.timers (contact : Contact) (clock key : Nat) (now : Instant) : List Timer :=
  [Timer.start key ⟨contact, .opening⟩ clock (contact.reminder .opening now).delay,
    Timer.start (key + 1) ⟨contact, .closing⟩ clock (contact.reminder .closing now).delay]

/-- Every contact takes two keys, and the opening has the lower one. -/
def Timer.pairsFrom (clock key : Nat) (now : Instant) (contacts : List Contact) : List Timer :=
  (Contact.keyedFrom key contacts).flatMap fun keyed => keyed.2.timers clock keyed.1 now

/-- Every contact waits for the timer of its opening. -/
def Tracked.awaitingFrom (key : Nat) (contacts : List Contact) : List Tracked :=
  (Contact.keyedFrom key contacts).map fun keyed => ⟨keyed.2, .awaiting keyed.1⟩

/-- Every contact takes two keys, so that later ones start behind them. -/
theorem Contact.keyedFrom_append (key : Nat) (first second : List Contact) :
    keyedFrom key (first ++ second) =
      keyedFrom key first ++ keyedFrom (key + 2 * first.length) second := by
  induction first generalizing key with
  | nil => rfl
  | cons contact rest inductionHypothesis =>
      have later : key + 2 + 2 * rest.length = key + 2 * (contact :: rest).length := by
        simp only [List.length_cons]
        omega
      simp only [List.cons_append, keyedFrom, inductionHypothesis, later]

@[simp] theorem Contact.map_snd_keyedFrom (key : Nat) (contacts : List Contact) :
    (keyedFrom key contacts).map Prod.snd = contacts := by
  induction contacts generalizing key with
  | nil => rfl
  | cons contact rest inductionHypothesis =>
      simp only [keyedFrom, List.map_cons, inductionHypothesis]

theorem Contact.mem_of_mem_keyedFrom {key : Nat} {contacts : List Contact} {keyed : Nat × Contact}
    (member : keyed ∈ keyedFrom key contacts) : keyed.2 ∈ contacts := by
  have isContact := List.mem_map_of_mem (f := Prod.snd) member
  rwa [map_snd_keyedFrom] at isContact

/-- Both timers of a contact carry it as it was declared. -/
theorem Contact.contact_of_mem_timers {contact : Contact} {clock key : Nat} {now : Instant}
    {timer : Timer} (member : timer ∈ contact.timers clock key now) :
    timer.event.contact = contact := by
  rcases List.mem_pair.mp member with rfl | rfl <;> rfl

/-- The timers of later contacts have the keys behind those of the earlier ones. -/
theorem Timer.pairsFrom_append (clock key : Nat) (now : Instant) (first second : List Contact) :
    Timer.pairsFrom clock key now (first ++ second) =
      Timer.pairsFrom clock key now first ++
        Timer.pairsFrom clock (key + 2 * first.length) now second := by
  simp only [Timer.pairsFrom, Contact.keyedFrom_append, List.flatMap_append]

/-- Later contacts await the timers behind those of the earlier ones. -/
theorem Tracked.awaitingFrom_append (key : Nat) (first second : List Contact) :
    Tracked.awaitingFrom key (first ++ second) =
      Tracked.awaitingFrom key first ++ Tracked.awaitingFrom (key + 2 * first.length) second := by
  simp only [Tracked.awaitingFrom, Contact.keyedFrom_append, List.map_append]

@[simp] theorem Tracked.map_contact_awaitingFrom (key : Nat) (contacts : List Contact) :
    (Tracked.awaitingFrom key contacts).map Tracked.contact = contacts := by
  rw [Tracked.awaitingFrom, List.map_map]
  exact Contact.map_snd_keyedFrom key contacts

/-- A contact that is not among the others has no timer among theirs. -/
theorem Timer.filter_pairsFrom_eq_nil {contact : Contact} {contacts : List Contact}
    (others : ∀ other ∈ contacts, ¬other.Same contact) (clock key : Nat) (now : Instant) :
    (Timer.pairsFrom clock key now contacts).filter
      (fun timer => timer.event.contact.Same contact) = [] := by
  apply List.filter_eq_nil_iff.mpr
  intro timer member same
  obtain ⟨keyed, isKeyed, own⟩ := List.mem_flatMap.mp member
  have other := others keyed.2 (Contact.mem_of_mem_keyedFrom isKeyed)
  rw [← Contact.contact_of_mem_timers own] at other
  exact other (of_decide_eq_true same)

/-- Of contacts that are not the same each has exactly its own two timers. -/
theorem Timer.filter_pairsFrom {before after : List Contact} {contact : Contact}
    (apart : (before ++ contact :: after).Pairwise fun left right => ¬left.Same right)
    (clock key : Nat) (now : Instant) :
    (Timer.pairsFrom clock key now (before ++ contact :: after)).filter
      (fun timer => timer.event.contact.Same contact) =
        contact.timers clock (key + 2 * before.length) now := by
  obtain ⟨-, restApart, beforeApart⟩ := List.pairwise_append.mp apart
  have earlier : ∀ other ∈ before, ¬other.Same contact :=
    fun other member => beforeApart other member contact List.mem_cons_self
  have later : ∀ other ∈ after, ¬other.Same contact :=
    fun other member same => (List.pairwise_cons.mp restApart).1 other member same.symm
  have own : (contact.timers clock (key + 2 * before.length) now).filter
      (fun timer => timer.event.contact.Same contact) =
        contact.timers clock (key + 2 * before.length) now := by
    apply List.filter_eq_self.mpr
    intro timer member
    rw [Contact.contact_of_mem_timers member]
    exact decide_eq_true (Contact.Same.refl contact)
  rw [← List.singleton_append, Timer.pairsFrom_append, Timer.pairsFrom_append, List.filter_append,
    List.filter_append, filter_pairsFrom_eq_nil earlier, filter_pairsFrom_eq_nil later,
    List.nil_append, List.append_nil]
  exact own

/-- The timers that were there keep their order. -/
theorem Timer.sublist_enqueue (timer : Timer) (delay : Nat) (timers : List Timer) :
    timers.Sublist (timer.enqueue delay timers) := by
  have inserted : timers.Sublist (timer.insertInto timers) := by
    induction timers with
    | nil => exact List.nil_sublist _
    | cons head rest inductionHypothesis =>
        rw [insertInto]
        split
        · exact inductionHypothesis.cons_cons head
        · exact List.sublist_cons_self timer _
  unfold enqueue
  split
  · exact List.sublist_cons_self timer timers
  · exact inserted

namespace Agenda

/-- An agenda that enrols contacts tracks them behind all others and has two more timers for each
of them. Whatever it held before stays as it was. -/
structure Enrols (agenda : Agenda) (now : Instant) (contacts : List Contact) (next : Agenda) :
    Prop where
  clock : next.clock = agenda.clock
  nextKey : next.nextKey = agenda.nextKey + 2 * contacts.length
  tracked : next.tracked = agenda.tracked ++ Tracked.awaitingFrom agenda.nextKey contacts
  timers : next.timers.Perm
    (agenda.timers ++ Timer.pairsFrom agenda.clock agenda.nextKey now contacts)
  kept : agenda.timers.Sublist next.timers

/-- Without contacts nothing is enrolled. -/
theorem enrols_nil (agenda : Agenda) (now : Instant) : agenda.Enrols now [] agenda where
  clock := rfl
  nextKey := rfl
  tracked := (List.append_nil _).symm
  timers := by
    change agenda.timers.Perm (agenda.timers ++ [])
    rw [List.append_nil]
  kept := List.Sublist.refl _

/-- A contact that is tracked is enrolled alone. -/
theorem enrols_track (agenda : Agenda) (contact : Contact) (now : Instant) :
    agenda.Enrols now [contact] (agenda.track contact now) where
  clock := rfl
  nextKey := rfl
  tracked := rfl
  timers := by
    let opening := contact.reminder .opening now
    let closing := contact.reminder .closing now
    let once := agenda.arm opening.event opening.delay
    have first := Timer.perm_enqueue
      (Timer.start agenda.nextKey opening.event agenda.clock opening.delay) opening.delay
      agenda.timers
    have second := Timer.perm_enqueue
      (Timer.start once.nextKey closing.event once.clock closing.delay) closing.delay once.timers
    have both := (second.trans (first.cons _)).trans (.swap _ _ _)
    have moved : (contact.timers agenda.clock agenda.nextKey now ++ agenda.timers).Perm
        (agenda.timers ++ contact.timers agenda.clock agenda.nextKey now) :=
      List.perm_append_comm
    exact both.trans moved
  kept := (Timer.sublist_enqueue _ _ _).trans (Timer.sublist_enqueue _ _ _)

/-- Contacts that are enrolled later get the keys behind. -/
theorem Enrols.append {agenda middle next : Agenda} {now : Instant} {first second : List Contact}
    (earlier : agenda.Enrols now first middle) (later : middle.Enrols now second next) :
    agenda.Enrols now (first ++ second) next where
  clock := later.clock.trans earlier.clock
  nextKey := by
    rw [later.nextKey, earlier.nextKey, List.length_append]
    omega
  tracked := by
    rw [later.tracked, earlier.tracked, earlier.nextKey, Tracked.awaitingFrom_append,
      List.append_assoc]
  timers := by
    have added := later.timers
    rw [earlier.clock, earlier.nextKey] at added
    rw [Timer.pairsFrom_append, ← List.append_assoc]
    exact added.trans (earlier.timers.append_right _)
  kept := earlier.kept.trans later.kept

def trackAll (agenda : Agenda) (now : Instant) (contacts : List Contact) : Agenda :=
  contacts.foldl (fun agenda contact => agenda.track contact now) agenda

theorem trackAll_append (agenda : Agenda) (now : Instant) (first second : List Contact) :
    agenda.trackAll now (first ++ second) = (agenda.trackAll now first).trackAll now second :=
  List.foldl_append

/-- All contacts that are tracked are enrolled. -/
theorem enrols_trackAll (agenda : Agenda) (now : Instant) (contacts : List Contact) :
    agenda.Enrols now contacts (agenda.trackAll now contacts) := by
  induction contacts generalizing agenda with
  | nil => exact agenda.enrols_nil now
  | cons contact rest inductionHypothesis =>
      exact (agenda.enrols_track contact now).append (inductionHypothesis _)

section Enrolment

variable {agenda next : Agenda} {now : Instant} {contacts : List Contact}
  (enrols : agenda.Enrols now contacts next)
include enrols

/-- Enrolled contacts are tracked behind the earlier ones. -/
theorem Enrols.map_contact_tracked :
    next.tracked.map Tracked.contact = agenda.tracked.map Tracked.contact ++ contacts := by
  simp only [enrols.tracked, List.map_append, Tracked.map_contact_awaitingFrom]

/-- Every enrolled contact is pending. -/
theorem Enrols.pending_eq : next.pending = agenda.pending + contacts.length := by
  have lengths := congrArg List.length enrols.map_contact_tracked
  simp only [List.length_map, List.length_append] at lengths
  exact lengths

/-- What is tracked afterwards was tracked before or has been enrolled. -/
theorem Enrols.tracks_iff {contact : Contact} :
    next.tracks contact ↔ agenda.tracks contact ∨ ∃ member ∈ contacts, member.Same contact := by
  have mapped (agenda : Agenda) : agenda.tracks contact ↔
      ∃ declared ∈ agenda.tracked.map Tracked.contact, declared.Same contact := by
    simp only [Agenda.tracks_iff, List.mem_map, exists_exists_and_eq_and]
  rw [mapped, mapped, enrols.map_contact_tracked]
  simp only [List.mem_append, or_and_right, exists_or]

end Enrolment

theorem tracks_empty (contact : Contact) : ¬Agenda.empty.tracks contact := by
  simp [tracks_iff, Agenda.empty]

/-- Each of the enrolled contacts waits for its opening, and its timers are the two that were
started for it. -/
theorem Enrols.timers_of_empty {agenda : Agenda} {now : Instant} {contacts : List Contact}
    (enrols : Agenda.empty.Enrols now contacts agenda)
    (apart : contacts.Pairwise fun left right => ¬left.Same right) {contact : Contact}
    (member : contact ∈ contacts) :
    ∃ key, ⟨contact, .awaiting key⟩ ∈ agenda.tracked ∧
      (agenda.timers.filter fun timer => timer.event.contact.Same contact).Perm
        (contact.timers 0 key now) := by
  obtain ⟨before, after, rfl⟩ := List.append_of_mem member
  have same := enrols.timers.filter fun timer => timer.event.contact.Same contact
  refine ⟨2 * before.length, ?_, ?_⟩
  · rw [enrols.tracked, Tracked.awaitingFrom_append]
    simp [Tracked.awaitingFrom, Contact.keyedFrom, Agenda.empty]
  · have own := Timer.filter_pairsFrom apart 0 0 now
    rw [Nat.zero_add] at own
    rw [← own]
    exact same

/-- Whether a contact is accepted does not depend on other contacts. -/
theorem accepts_track {agenda : Agenda} {added contact : Contact} {now : Instant}
    (other : ¬added.Same contact) :
    (agenda.track added now).accepts contact = agenda.accepts contact := by
  rw [Bool.eq_iff_iff, accepts_iff, accepts_iff, tracks_track]
  simp only [other, or_false]

/-- Contacts that are not the same do not get into each other's way. -/
theorem registerAll_eq {agenda : Agenda} {now : Instant} {contacts : List Contact}
    (apart : contacts.Pairwise fun left right => ¬left.Same right) :
    agenda.registerAll now contacts =
      ((contacts.filter agenda.accepts).flatMap fun contact => contact.reminders now,
        agenda.trackAll now (contacts.filter agenda.accepts)) := by
  induction contacts generalizing agenda with
  | nil => rfl
  | cons contact rest inductionHypothesis =>
      obtain ⟨others, restApart⟩ := List.pairwise_cons.mp apart
      by_cases accepts : agenda.accepts contact
      · have unaffected : rest.filter (agenda.track contact now).accepts =
            rest.filter agenda.accepts :=
          List.filter_congr fun other member => accepts_track (others other member)
        rw [registerAll_cons_accepted accepts, inductionHypothesis restApart, unaffected,
          List.filter_cons_of_pos accepts, List.flatMap_cons]
        rfl
      · rw [registerAll_cons_refused accepts, inductionHypothesis restApart,
          List.filter_cons_of_neg accepts]

/-- A registration tracks exactly the contacts that the agenda accepts beforehand. -/
theorem register_eq (agenda : Agenda) (set : ContactSet) (now : Instant) :
    agenda.register set now =
      ((set.members.filter agenda.accepts).flatMap fun contact => contact.reminders now,
        agenda.trackAll now (set.members.filter agenda.accepts)) :=
  registerAll_eq set.ascending.apart

/-- The contacts that are refused could as well have been left out of the set. -/
theorem registerAll_accepted (agenda : Agenda) (set : ContactSet) (now : Instant) :
    agenda.registerAll now (set.members.filter agenda.accepts) = agenda.register set now := by
  have apart := set.ascending.apart.sublist (List.filter_sublist (p := agenda.accepts))
  rw [registerAll_eq apart, register_eq, List.filter_filter]
  simp only [Bool.and_self]

/-- Every contact has two reminders. -/
theorem length_reminders (contacts : List Contact) (now : Instant) :
    (contacts.flatMap fun contact => contact.reminders now).length = 2 * contacts.length := by
  simp [Contact.reminders, Nat.mul_comm]

/-- Of a set an agenda accepts exactly the valid contacts that it does not track, however they are
declared, and it reminds of both boundaries of each in the order of the set. A delay lasts until
its boundary unless that has passed.
The agenda enrols these contacts, and for the others it does nothing at all. -/
theorem register_accepted (agenda : Agenda) (set : ContactSet) (now : Instant) :
    let accepted := set.members.filter agenda.accepts
    (∀ contact, agenda.accepts contact ↔ contact.isValid ∧
      ∀ tracked ∈ agenda.tracked, ¬tracked.contact.Same contact) ∧
    ∃ reminders next, agenda.register set now = (reminders, next) ∧
      reminders = (accepted.flatMap fun contact =>
        [⟨⟨contact, .opening⟩, contact.start.toNat - now.toNat⟩,
          ⟨⟨contact, .closing⟩, contact.stop.toNat - now.toNat⟩]) ∧
      reminders.map Reminder.instant =
        (accepted.flatMap fun contact => [contact.start, contact.stop]) ∧
      (∀ contact : Contact, contact.stop.toNat =
        min (contact.start.toNat + contact.duration.toNat) (UInt64.size - 1)) ∧
      (∀ contact : Contact,
        contact.start.toNat - now.toNat ≤ contact.stop.toNat - now.toNat) ∧
      next.pending = agenda.pending + reminders.length / 2 ∧
      agenda.Enrols now accepted next ∧
      agenda.registerAll now accepted = (reminders, next) ∧
      ((∀ contact ∈ set.members, contact.isValid →
        ∃ tracked ∈ agenda.tracked, tracked.contact.Same contact) →
          reminders = [] ∧ next = agenda) := by
  intro accepted
  have characterized (contact : Contact) : agenda.accepts contact ↔ contact.isValid ∧
      ∀ tracked ∈ agenda.tracked, ¬tracked.contact.Same contact := by
    rw [accepts_iff, tracks_iff]
    simp only [not_exists, not_and]
  have registered : agenda.register set now =
      (accepted.flatMap fun contact => contact.reminders now, agenda.trackAll now accepted) :=
    register_eq agenda set now
  have enrols := agenda.enrols_trackAll now accepted
  refine ⟨characterized, _, _, registered, rfl, ?_, Contact.toNat_stop,
    fun contact => Nat.sub_le_sub_right contact.start_le_stop _, ?_, enrols,
    (registerAll_accepted agenda set now).trans registered, ?_⟩
  · rw [List.map_flatMap]
    rfl
  · rw [enrols.pending_eq, length_reminders]
    omega
  · intro known
    have none : accepted = [] := by
      apply List.filter_eq_nil_iff.mpr
      intro contact member accepts
      obtain ⟨isValid, unknown⟩ := (characterized contact).mp accepts
      obtain ⟨tracked, isTracked, same⟩ := known contact member isValid
      exact unknown tracked isTracked same
    rw [none]
    exact ⟨rfl, rfl⟩

/-- This agenda is waiting for one contact. -/
def waiting : Agenda := Agenda.empty.track passed 500

/-- The contact comes from the other side now and another one lacks a duration, so that only the
third is accepted, which has begun already and lasts beyond the last instant.
When the set does not have the third, nothing happens. -/
theorem register_accepted_endless :
    let endless : Contact := ⟨2000, 18446744073709551615, ⟨40, ⟨4⟩⟩, ⟨30, ⟨3⟩⟩⟩
    let refused : List Contact := [passed.flip, { remote with duration := 0 }]
    (∃ reminders next,
      waiting.register (ContactSet.ofList (endless :: refused)) 3000 = (reminders, next) ∧
      reminders.map Reminder.delay = [0, 18446744073709548615] ∧
      reminders.map Reminder.instant = [2000, 18446744073709551615] ∧
      next.pending = 2 ∧ waiting.Enrols 3000 [endless] next) ∧
    (∀ contact ∈ (ContactSet.ofList refused).members, contact.isValid →
      ∃ tracked ∈ waiting.tracked, tracked.contact.Same contact) ∧
    waiting.register (ContactSet.ofList refused) 3000 = ([], waiting) := by
  intro endless refused
  have known : ∀ contact ∈ (ContactSet.ofList refused).members, contact.isValid →
      ∃ tracked ∈ waiting.tracked, tracked.contact.Same contact := by decide
  have one : (ContactSet.ofList (endless :: refused)).members.filter waiting.accepts =
      [endless] := by decide
  obtain ⟨-, reminders, next, registered, isReminders, instants, -, -, pending, enrols, -⟩ :=
    register_accepted waiting (ContactSet.ofList (endless :: refused)) 3000
  obtain ⟨-, none, same, nothing, -, -, -, -, -, -, -, unchanged⟩ :=
    register_accepted waiting (ContactSet.ofList refused) 3000
  obtain ⟨rfl, rfl⟩ := unchanged known
  rw [one] at isReminders instants enrols
  subst isReminders
  have ends : endless.stop = 18446744073709551615 := by decide +kernel
  simp only [List.flatMap_singleton, ends] at registered instants pending
  have both : next.pending = 2 := by
    rw [pending]
    decide
  exact ⟨⟨_, next, registered, by decide, instants, both, enrols⟩, known, nothing⟩

end Agenda

end ContactPlan
