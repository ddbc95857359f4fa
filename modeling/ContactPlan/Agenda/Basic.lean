import ContactPlan.Agenda.Timer
import ContactPlan.Contact.Set

namespace ContactPlan

/-- What is known of a contact until its closing has been handed out.
The timer of its opening is known until it has come due or has been overtaken. -/
structure Phase where
  hasOpened : Bool
  opening? : Option Nat
  deriving DecidableEq

/-- A contact that has not opened knows the timer of its opening. -/
abbrev Phase.awaiting (opening : Nat) : Phase := ⟨false, some opening⟩

/-- A contact that has opened has used up the timer of its opening. -/
abbrev Phase.opened : Phase := ⟨true, none⟩

structure Tracked where
  contact : Contact
  phase : Phase
  deriving DecidableEq

/-- An agenda tracks contacts from their registration to the end of their windows.
The first timer is the next to be handed out. -/
structure Agenda where
  clock : Nat
  nextKey : Nat
  timers : List Timer
  tracked : List Tracked
  deriving DecidableEq

def Agenda.empty : Agenda := ⟨0, 0, [], []⟩

/-- A contact is pending until its closing has been handed out. -/
def Agenda.pending (agenda : Agenda) : Nat := agenda.tracked.length

/-- An idle agenda has nothing to wait for. -/
def Agenda.isIdle (agenda : Agenda) : Bool := agenda.timers.isEmpty

def Agenda.text (agenda : Agenda) : String :=
  "<ContactScheduler contacts=" ++ Decimal.write agenda.pending ++ " timers=" ++
    Decimal.write agenda.timers.length ++ ">"

/-- A contact is found by any of its declarations. -/
def Agenda.phase? (agenda : Agenda) (contact : Contact) : Option Phase :=
  (agenda.tracked.find? fun tracked => tracked.contact.Same contact).map Tracked.phase

/-- A contact is tracked from its registration until its closing has been handed out. -/
def Agenda.tracks (agenda : Agenda) (contact : Contact) : Bool := (agenda.phase? contact).isSome

/-- A contact learns the new timer of its opening, whether it has opened or not. -/
def Phase.await (opening : Nat) (phase : Phase) : Phase := { phase with opening? := some opening }

def Tracked.change (tracked : Tracked) (contact : Contact) (step : Phase → Phase) : Tracked :=
  if tracked.contact.Same contact then { tracked with phase := step tracked.phase } else tracked

/-- What is known of the other contacts stays. -/
def Agenda.change (agenda : Agenda) (contact : Contact) (step : Phase → Phase) : Agenda :=
  { agenda with tracked := agenda.tracked.map fun tracked => tracked.change contact step }

/-- The timer of an opening is not needed after the opening. -/
def Agenda.markOpened (agenda : Agenda) (contact : Contact) : Agenda :=
  agenda.change contact fun _ => .opened

/-- A contact that is forgotten can be registered again. -/
def Agenda.forget (agenda : Agenda) (contact : Contact) : Agenda :=
  { agenda with
    tracked := agenda.tracked.filter fun tracked => !decide (tracked.contact.Same contact) }

/-- The clock never goes back. -/
def Agenda.reach (agenda : Agenda) (instant : Nat) : Agenda :=
  { agenda with clock := max agenda.clock instant }

/-- The clock may jump over deadlines. -/
def Agenda.advance (agenda : Agenda) (milliseconds : Nat) : Agenda :=
  { agenda with clock := agenda.clock + milliseconds }

/-- The new timer has the next key. -/
def Agenda.arm (agenda : Agenda) (event : Event) (delay : Nat) : Agenda :=
  { agenda with
    nextKey := agenda.nextKey + 1
    timers := (Timer.start agenda.nextKey event agenda.clock delay).enqueue delay agenda.timers }

/-- A timer is taken off by its key. -/
def Agenda.disarm (agenda : Agenda) (key : Nat) : Agenda :=
  { agenda with timers := agenda.timers.filter fun timer => timer.key ≠ key }

/-- A reminder tells when a boundary comes and how long it is until then. -/
structure Reminder where
  event : Event
  delay : Nat

/-- The instant of a boundary, whatever the delay until then is. -/
def Reminder.instant (reminder : Reminder) : Instant :=
  reminder.event.contact.boundary reminder.event.boundary

/-- A boundary in the past comes at once. -/
def Contact.reminder (contact : Contact) (boundary : Boundary) (now : Instant) : Reminder :=
  ⟨⟨contact, boundary⟩, (contact.boundary boundary).delayUntil now⟩

/-- One reminder for each boundary, the opening first. -/
def Contact.reminders (contact : Contact) (now : Instant) : List Reminder :=
  [contact.reminder .opening now, contact.reminder .closing now]

/-- An invalid contact and one that is tracked already are refused. -/
def Agenda.accepts (agenda : Agenda) (contact : Contact) : Bool :=
  contact.isValid && !agenda.tracks contact

/-- The opening is armed before the closing. -/
def Agenda.track (agenda : Agenda) (contact : Contact) (now : Instant) : Agenda :=
  let opening := contact.reminder .opening now
  let closing := contact.reminder .closing now
  let armed := (agenda.arm opening.event opening.delay).arm closing.event closing.delay
  { armed with tracked := armed.tracked ++ [⟨contact, .awaiting agenda.nextKey⟩] }

/-- A contact that is refused leaves the agenda as it is. -/
def Agenda.registerContact? (agenda : Agenda) (contact : Contact) (now : Instant) :
    Option (List Reminder × Agenda) :=
  if agenda.accepts contact then some (contact.reminders now, agenda.track contact now) else none

/-- The contacts are registered one after the other. -/
def Agenda.registerAll (agenda : Agenda) (now : Instant) :
    List Contact → List Reminder × Agenda
  | [] => ([], agenda)
  | contact :: rest =>
      match agenda.registerContact? contact now with
      | some (reminders, agenda) =>
          let (others, agenda) := agenda.registerAll now rest
          (reminders ++ others, agenda)
      | none => agenda.registerAll now rest

/-- The contacts of a set are registered in canonical order. -/
def Agenda.register (agenda : Agenda) (set : ContactSet) (now : Instant) :
    List Reminder × Agenda :=
  agenda.registerAll now set.members

end ContactPlan
