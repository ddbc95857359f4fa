import ContactPlan.Contact.Event
import ContactPlan.Proofs.Contact.Same

/-
This file keeps account of the contacts that are accepted and of the events that are handed out.
Every contact goes through rounds, in which it is accepted, opens and closes.
-/

namespace ContactPlan

/-- An observer notes what is accepted and what is handed out. -/
inductive Note where
  | accepted (contact : Contact)
  | delivered (event : Event)
  deriving DecidableEq

/-- Openings and closings take turns, and an opening comes first. -/
def Boundary.inTurn (index : Nat) : Boundary := if index % 2 = 0 then .opening else .closing

namespace Note

def contact : Note → Contact
  | accepted contact => contact
  | delivered event => event.contact

def accepted? : Note → Option Contact
  | accepted contact => some contact
  | delivered _ => none

def event? : Note → Option Event
  | accepted _ => none
  | delivered event => some event

@[simp] theorem contact_accepted (contact : Contact) : (accepted contact).contact = contact := rfl

@[simp] theorem contact_delivered (event : Event) : (delivered event).contact = event.contact := rfl

@[simp] theorem event?_accepted (contact : Contact) : (accepted contact).event? = none := rfl

@[simp] theorem event?_delivered (event : Event) : (delivered event).event? = some event := rfl

/-- All notes on one contact count, however it was declared. -/
def about (contact : Contact) (notes : List Note) : List Note :=
  notes.filter fun note => note.contact.Same contact

def contacts (notes : List Note) : List Contact := notes.filterMap accepted?

def events (notes : List Note) : List Event := notes.filterMap event?

/-- Both events of a round carry the contact as it was accepted. -/
def round (contact : Contact) : List Note :=
  [accepted contact, delivered ⟨contact, .opening⟩, delivered ⟨contact, .closing⟩]

def rounds (contacts : List Contact) : List Note := contacts.flatMap round

def closings (notes : List Note) : Nat :=
  (events notes).countP fun event => event.boundary = .closing

theorem about_append (contact : Contact) (first second : List Note) :
    about contact (first ++ second) = about contact first ++ about contact second :=
  List.filter_append ..

theorem about_singleton_same (note : Note) {contact : Contact} (same : note.contact.Same contact) :
    about contact [note] = [note] := by
  simp [about, same]

theorem about_singleton_other (note : Note) {contact : Contact}
    (other : ¬note.contact.Same contact) : about contact [note] = [] := by
  simp [about, other]

theorem rounds_append (first second : List Contact) :
    rounds (first ++ second) = rounds first ++ rounds second := List.flatMap_append

theorem rounds_singleton (contact : Contact) : rounds [contact] = round contact := by
  simp [rounds]

theorem contacts_append (first second : List Note) :
    contacts (first ++ second) = contacts first ++ contacts second := List.filterMap_append

/-- In its round a contact is accepted once. -/
theorem contacts_rounds (finished : List Contact) : contacts (rounds finished) = finished := by
  induction finished with
  | nil => rfl
  | cons contact rest inductionHypothesis =>
      change contact :: contacts (rounds rest) = contact :: rest
      rw [inductionHypothesis]

theorem events_append (first second : List Note) :
    events (first ++ second) = events first ++ events second := List.filterMap_append

theorem closings_append (first second : List Note) :
    closings (first ++ second) = closings first + closings second := by
  rw [closings, events_append, List.countP_append]
  rfl

/-- The events of one contact are the events in the notes on it. -/
theorem events_about (contact : Contact) (notes : List Note) :
    events (about contact notes) =
      (events notes).filter fun event => event.contact.Same contact := by
  induction notes with
  | nil => rfl
  | cons note rest inductionHypothesis =>
      unfold events about at inductionHypothesis ⊢
      cases note with
      | accepted declared =>
          by_cases same : declared.Same contact <;>
            simp [List.filterMap_cons, same, inductionHypothesis]
      | delivered event =>
          by_cases same : event.contact.Same contact <;> simp [same, inductionHypothesis]

/-- In its round a contact opens and closes. -/
theorem events_rounds_cons (contact : Contact) (rest : List Contact) :
    events (rounds (contact :: rest)) =
      ⟨contact, .opening⟩ :: ⟨contact, .closing⟩ :: events (rounds rest) := rfl

/-- The events of rounds take turns, also when an opening has begun a further round. -/
theorem boundary_of_rounds {finished : List Contact} {started : List Event}
    (atMostOne : started = [] ∨ ∃ contact, started = [⟨contact, .opening⟩]) {index : Nat}
    {event : Event} (found : (events (rounds finished) ++ started)[index]? = some event) :
    event.boundary = Boundary.inTurn index := by
  induction finished generalizing index with
  | nil =>
      change started[index]? = some event at found
      rcases atMostOne with rfl | ⟨contact, rfl⟩
      · cases found
      · cases index with
        | zero => cases found; rfl
        | succ index => cases found
  | cons contact rest inductionHypothesis =>
      rw [events_rounds_cons] at found
      match index, found with
      | 0, found => cases found; rfl
      | 1, found => cases found; rfl
      | index + 2, found =>
          rw [inductionHypothesis found]
          simp only [Boundary.inTurn, Nat.add_mod_right]

/-- In finished rounds every opening is followed by a closing. -/
theorem closing_after_opening {finished : List Contact} {before after : List Event} {event : Event}
    (split : events (rounds finished) = before ++ event :: after)
    (opens : event.boundary = .opening) : ∃ later ∈ after, later.boundary = .closing := by
  induction finished generalizing before with
  | nil => cases before <;> cases split
  | cons contact rest inductionHypothesis =>
      rw [events_rounds_cons] at split
      match before, split with
      | [], split =>
          cases split
          exact ⟨_, List.mem_cons_self, rfl⟩
      | [_], split =>
          cases split
          cases opens
      | _ :: _ :: before, split =>
          simp only [List.cons_append, List.cons.injEq] at split
          exact inductionHypothesis split.2.2

end Note

/-- A contact that is tracked has opened or has yet to open. -/
structure Standing where
  contact : Contact
  hasOpened : Bool
  deriving DecidableEq

namespace Standing

/-- The notes since the contact was accepted. -/
def notes (standing : Standing) : List Note :=
  if standing.hasOpened then [.accepted standing.contact, .delivered ⟨standing.contact, .opening⟩]
  else [.accepted standing.contact]

def about (contact : Contact) (ledger : List Standing) : List Standing :=
  ledger.filter fun standing => standing.contact.Same contact

/-- No contact stands twice in a ledger. -/
def Distinct (ledger : List Standing) : Prop :=
  ledger.Pairwise fun left right => ¬left.contact.Same right.contact

/-- One turn accepts a contact, opens one that has not opened, or closes one that has. -/
inductive Turn : List Standing → List Note → List Standing → Prop where
  | idle (ledger : List Standing) : Turn ledger [] ledger
  | accept {ledger : List Standing} {contact : Contact}
      (fresh : ∀ standing ∈ ledger, ¬standing.contact.Same contact) :
      Turn ledger [.accepted contact] (ledger ++ [⟨contact, false⟩])
  | openUp (before : List Standing) (contact : Contact) (after : List Standing) :
      Turn (before ++ ⟨contact, false⟩ :: after) [.delivered ⟨contact, .opening⟩]
        (before ++ ⟨contact, true⟩ :: after)
  | close (before : List Standing) (contact : Contact) (after : List Standing) :
      Turn (before ++ ⟨contact, true⟩ :: after) [.delivered ⟨contact, .closing⟩] (before ++ after)

theorem about_append (contact : Contact) (first second : List Standing) :
    about contact (first ++ second) = about contact first ++ about contact second :=
  List.filter_append ..

theorem about_cons_same (standing : Standing) {contact : Contact}
    (same : standing.contact.Same contact) (rest : List Standing) :
    about contact (standing :: rest) = standing :: about contact rest := by
  simp [about, same]

theorem about_cons_other (standing : Standing) {contact : Contact}
    (other : ¬standing.contact.Same contact) (rest : List Standing) :
    about contact (standing :: rest) = about contact rest := by
  simp [about, other]

theorem about_eq_nil {contact : Contact} {ledger : List Standing}
    (others : ∀ standing ∈ ledger, ¬standing.contact.Same contact) :
    about contact ledger = [] := by
  apply List.filter_eq_nil_iff.mpr
  intro standing member
  simpa using others standing member

/-- The other standings are about other contacts. -/
theorem Distinct.others {before after : List Standing} {standing : Standing}
    (distinct : Distinct (before ++ standing :: after)) :
    ∀ other ∈ before ++ after, ¬other.contact.Same standing.contact := by
  obtain ⟨_, fromHere, across⟩ := List.pairwise_append.mp distinct
  intro other member same
  rcases List.mem_append.mp member with inBefore | inAfter
  · exact across other inBefore standing List.mem_cons_self same
  · exact (List.pairwise_cons.mp fromHere).1 other inAfter same.symm

/-- Whatever stands in the middle is all that stands of its contact. -/
theorem Distinct.about_eq_singleton {before after : List Standing} {standing : Standing}
    {contact : Contact} (distinct : Distinct (before ++ standing :: after))
    (same : standing.contact.Same contact) :
    about contact (before ++ standing :: after) = [standing] := by
  have others (other : Standing) (member : other ∈ before ++ after) :
      ¬other.contact.Same contact :=
    fun otherSame => distinct.others other member (otherSame.trans same.symm)
  rw [about_append, about_cons_same standing same,
    about_eq_nil fun other member => others other (List.mem_append_left _ member),
    about_eq_nil fun other member => others other (List.mem_append_right _ member)]
  rfl

/-- Standings stay distinct when one of them is removed. -/
theorem Distinct.remove {before after : List Standing} {standing : Standing}
    (distinct : Distinct (before ++ standing :: after)) : Distinct (before ++ after) :=
  List.Pairwise.sublist (List.sublist_cons_self standing after |>.append_left before) distinct

/-- Whether a contact has opened does not matter to what it is distinct from. -/
theorem Distinct.replace {before after : List Standing} {old new : Standing}
    (distinct : Distinct (before ++ old :: after)) (equal : new.contact = old.contact) :
    Distinct (before ++ new :: after) := by
  have contacts (ledger : List Standing) : Distinct ledger ↔
      (ledger.map Standing.contact).Pairwise fun left right => ¬left.Same right := by
    rw [List.pairwise_map]
    rfl
  rw [contacts] at distinct ⊢
  simpa only [List.map_append, List.map_cons, equal] using distinct

/-- Standings stay distinct when a contact without a standing gets one. -/
theorem Distinct.append_fresh {ledger : List Standing} {contact : Contact} {hasOpened : Bool}
    (distinct : Distinct ledger) (fresh : ∀ standing ∈ ledger, ¬standing.contact.Same contact) :
    Distinct (ledger ++ [⟨contact, hasOpened⟩]) := by
  refine List.pairwise_append.mpr ⟨distinct, List.pairwise_singleton _ _, ?_⟩
  intro standing member other isNew
  rw [List.mem_singleton.mp isNew]
  exact fresh standing member

/-- At most one entry of a ledger stands for a contact. -/
theorem Distinct.about_cases {ledger : List Standing} (distinct : Distinct ledger)
    (contact : Contact) :
    about contact ledger = [] ∨ ∃ standing, about contact ledger = [standing] := by
  have remaining : Distinct (about contact ledger) :=
    List.Pairwise.sublist List.filter_sublist distinct
  have same (standing : Standing) (member : standing ∈ about contact ledger) :
      standing.contact.Same contact := by
    simpa using (List.mem_filter.mp member).2
  match shape : about contact ledger with
  | [] => exact .inl rfl
  | [standing] => exact .inr ⟨standing, rfl⟩
  | first :: second :: rest =>
      rw [shape] at remaining same
      have apart := (List.pairwise_cons.mp remaining).1 second List.mem_cons_self
      have firstSame := same first List.mem_cons_self
      have secondSame := same second (List.mem_cons_of_mem _ List.mem_cons_self)
      exact absurd (firstSame.trans secondSame.symm) apart

/-- The notes of a contact that stands are the beginning of its round. -/
theorem notes_prefix_round (standing : Standing) :
    standing.notes <+: Note.round standing.contact := by
  obtain ⟨contact, hasOpened⟩ := standing
  cases hasOpened
  · exact ⟨[.delivered ⟨contact, .opening⟩, .delivered ⟨contact, .closing⟩], rfl⟩
  · exact ⟨[.delivered ⟨contact, .closing⟩], rfl⟩

/-- A contact that stands has been accepted once. -/
theorem contacts_notes (standing : Standing) :
    Note.contacts standing.notes = [standing.contact] := by
  obtain ⟨contact, hasOpened⟩ := standing
  cases hasOpened <;> rfl

/-- A contact that stands has had no event but its opening. -/
theorem events_notes (standing : Standing) :
    Note.events standing.notes =
      if standing.hasOpened then [⟨standing.contact, .opening⟩] else [] := by
  obtain ⟨contact, hasOpened⟩ := standing
  cases hasOpened <;> rfl

/-- The notes on every contact are finished rounds and at most one round that is not. -/
structure Balanced (notes : List Note) (ledger : List Standing) : Prop where
  distinct : Distinct ledger
  rounds : ∀ contact, ∃ finished,
    Note.about contact notes = Note.rounds finished ++ (about contact ledger).flatMap Standing.notes
  pending : ledger.length + Note.closings notes = (Note.contacts notes).length

theorem balanced_nil : Balanced [] [] := ⟨List.Pairwise.nil, fun _ => ⟨[], rfl⟩, rfl⟩

/-- A contact that is accepted begins a round. -/
theorem Balanced.accept {notes : List Note} {ledger : List Standing} {accepted : Contact}
    (balanced : Balanced notes ledger)
    (fresh : ∀ standing ∈ ledger, ¬standing.contact.Same accepted) :
    Balanced (notes ++ [.accepted accepted]) (ledger ++ [⟨accepted, false⟩]) := by
  have pending := balanced.pending
  refine ⟨balanced.distinct.append_fresh fresh, fun contact => ?_, ?_⟩
  · obtain ⟨finished, rounds⟩ := balanced.rounds contact
    refine ⟨finished, ?_⟩
    rw [Note.about_append, about_append, List.flatMap_append, rounds, List.append_assoc]
    by_cases same : accepted.Same contact
    · rw [Note.about_singleton_same (.accepted accepted) same,
        about_cons_same ⟨accepted, false⟩ same]
      rfl
    · rw [Note.about_singleton_other (.accepted accepted) same,
        about_cons_other ⟨accepted, false⟩ same]
      rfl
  · rw [List.length_append, Note.closings_append, Note.contacts_append, List.length_append]
    change ledger.length + 1 + (Note.closings notes + 0) = (Note.contacts notes).length + 1
    omega

/-- An opening goes on with a round. -/
theorem Balanced.openUp {notes : List Note} {before after : List Standing} {opened : Contact}
    (balanced : Balanced notes (before ++ ⟨opened, false⟩ :: after)) :
    Balanced (notes ++ [.delivered ⟨opened, .opening⟩]) (before ++ ⟨opened, true⟩ :: after) := by
  have distinct := balanced.distinct
  have nextDistinct : Distinct (before ++ ⟨opened, true⟩ :: after) := distinct.replace rfl
  have pending := balanced.pending
  refine ⟨nextDistinct, fun contact => ?_, ?_⟩
  · obtain ⟨finished, rounds⟩ := balanced.rounds contact
    refine ⟨finished, ?_⟩
    rw [Note.about_append, rounds]
    by_cases same : opened.Same contact
    · rw [Note.about_singleton_same (.delivered ⟨opened, .opening⟩) same,
        distinct.about_eq_singleton same, nextDistinct.about_eq_singleton same,
        List.append_assoc]
      rfl
    · rw [Note.about_singleton_other (.delivered ⟨opened, .opening⟩) same, List.append_nil,
        about_append, about_append, about_cons_other ⟨opened, false⟩ same,
        about_cons_other ⟨opened, true⟩ same]
  · rw [Note.closings_append, Note.contacts_append, List.length_append]
    simp only [List.length_append, List.length_cons] at pending ⊢
    change _ + (Note.closings notes + 0) = (Note.contacts notes).length + 0
    omega

/-- A closing finishes a round. -/
theorem Balanced.close {notes : List Note} {before after : List Standing} {closed : Contact}
    (balanced : Balanced notes (before ++ ⟨closed, true⟩ :: after)) :
    Balanced (notes ++ [.delivered ⟨closed, .closing⟩]) (before ++ after) := by
  have distinct := balanced.distinct
  have pending := balanced.pending
  refine ⟨distinct.remove, fun contact => ?_, ?_⟩
  · obtain ⟨finished, rounds⟩ := balanced.rounds contact
    by_cases same : closed.Same contact
    · refine ⟨finished ++ [closed], ?_⟩
      have gone : about contact (before ++ after) = [] :=
        about_eq_nil fun other member otherSame =>
          distinct.others other member (otherSame.trans same.symm)
      rw [Note.about_append, rounds,
        Note.about_singleton_same (.delivered ⟨closed, .closing⟩) same,
        distinct.about_eq_singleton same, gone, Note.rounds_append, Note.rounds_singleton,
        List.append_assoc, List.append_assoc]
      rfl
    · refine ⟨finished, ?_⟩
      rw [Note.about_append, rounds,
        Note.about_singleton_other (.delivered ⟨closed, .closing⟩) same, List.append_nil,
        about_append, about_append, about_cons_other ⟨closed, true⟩ same]
  · rw [Note.closings_append, Note.contacts_append, List.length_append]
    simp only [List.length_append, List.length_cons] at pending ⊢
    change _ + (Note.closings notes + 1) = (Note.contacts notes).length + 0
    omega

/-- Every turn keeps the account balanced. -/
theorem Balanced.turn {notes more : List Note} {ledger next : List Standing}
    (balanced : Balanced notes ledger) (turn : Turn ledger more next) :
    Balanced (notes ++ more) next := by
  cases turn with
  | idle =>
      rw [List.append_nil]
      exact balanced
  | accept fresh => exact balanced.accept fresh
  | openUp before opened after => exact balanced.openUp
  | close before closed after => exact balanced.close

/-- The events of one contact take turns. -/
theorem Balanced.boundary_eq {notes : List Note} {ledger : List Standing}
    (balanced : Balanced notes ledger) {contact : Contact} {index : Nat} {event : Event}
    (found : ((Note.events notes).filter fun event => event.contact.Same contact)[index]? =
      some event) :
    event.boundary = Boundary.inTurn index := by
  obtain ⟨finished, rounds⟩ := balanced.rounds contact
  rw [← Note.events_about, rounds, Note.events_append] at found
  refine Note.boundary_of_rounds ?_ found
  rcases balanced.distinct.about_cases contact with none | ⟨standing, one⟩
  · rw [none]
    exact .inl rfl
  · rw [one, List.flatMap_singleton, events_notes]
    cases standing.hasOpened
    · exact .inl rfl
    · exact .inr ⟨standing.contact, rfl⟩

/-- The notes on one contact are a beginning of the rounds of what was accepted. -/
theorem Balanced.about_prefix_rounds {notes : List Note} {ledger : List Standing}
    (balanced : Balanced notes ledger) (contact : Contact) :
    Note.about contact notes <+: Note.rounds (Note.contacts (Note.about contact notes)) := by
  obtain ⟨finished, rounds⟩ := balanced.rounds contact
  rw [rounds, Note.contacts_append, Note.contacts_rounds, Note.rounds_append]
  apply (List.prefix_append_right_inj _).mpr
  rcases balanced.distinct.about_cases contact with none | ⟨standing, one⟩
  · rw [none]
    exact List.nil_prefix
  · rw [one, List.flatMap_singleton, contacts_notes, Note.rounds_singleton]
    exact notes_prefix_round standing

end Standing

end ContactPlan
