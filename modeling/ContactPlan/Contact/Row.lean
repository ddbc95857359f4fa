import ContactPlan.Contact.Basic

namespace ContactPlan

def Contact.columns : List String :=
  ["Start", "End", "Duration (ms)", "AS 1", "Gateway 1", "AS 2", "Gateway 2", "Valid"]

/-- A row has one cell for each column. -/
def Contact.row (contact : Contact) : List String :=
  [contact.start.text, contact.stop.text, Decimal.write contact.duration.toNat,
    contact.first.asn.text, contact.first.gateway.text, contact.second.asn.text,
    contact.second.gateway.text, if contact.isValid then "yes" else "no"]

/-- The members of an object and their values as they are written. -/
def Contact.properties (contact : Contact) : List (String × String) :=
  [("start_time", Decimal.write contact.start.toNat),
    ("duration", Decimal.write contact.duration.toNat),
    ("asn1", Decimal.write contact.first.asn.toNat),
    ("gw1", "\"" ++ contact.first.gateway.text ++ "\""),
    ("asn2", Decimal.write contact.second.asn.toNat),
    ("gw2", "\"" ++ contact.second.gateway.text ++ "\"")]

def Contact.propertyLine (property : String × String) : String :=
  "    \"" ++ property.1 ++ "\": " ++ property.2

/-- Every level of a listing is indented by two blanks. -/
def Contact.objectText (contact : Contact) : String :=
  "  \x7b\n" ++ ",\n".intercalate (contact.properties.map Contact.propertyLine) ++ "\n  \x7d"

/-- An empty listing has no line break. -/
def Contact.listing : List Contact → String
  | [] => "[]"
  | contacts => "[\n" ++ ",\n".intercalate (contacts.map Contact.objectText) ++ "\n]"

end ContactPlan
