import ContactPlan.Contact.Basic

namespace ContactPlan

/-- A contact opens at its start and closes at its end. -/
inductive Boundary where
  | opening
  | closing
  deriving DecidableEq

def Boundary.text : Boundary → String
  | .opening => "begin"
  | .closing => "end"

/-- A boundary comes at the start or at the end of its contact. -/
def Contact.boundary (contact : Contact) : Boundary → Instant
  | .opening => contact.start
  | .closing => contact.stop

/-- An event says that a contact has reached a boundary. -/
structure Event where
  contact : Contact
  boundary : Boundary
  deriving DecidableEq

def Event.text (event : Event) : String := event.boundary.text ++ " " ++ event.contact.text

end ContactPlan
