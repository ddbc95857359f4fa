import ContactPlan.Contact.Basic

namespace ContactPlan

/-- A path crosses a contact when the two systems are next to each other. -/
def Contact.adjacentIn (contact : Contact) : List Asn → Bool
  | first :: second :: rest => contact.joins first second || contact.adjacentIn (second :: rest)
  | _ => false

/-- The router itself is the first system of all its paths. -/
def Contact.crossedBy (contact : Contact) (own : Asn) (path : List Asn) : Bool :=
  contact.adjacentIn (own :: path)

end ContactPlan
