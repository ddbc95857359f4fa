import ContactPlan.Address.Ipv4
import ContactPlan.Asn
import ContactPlan.Instant.Stamp

namespace ContactPlan

/-- A gateway belongs to the side of its system. -/
structure Endpoint where
  asn : Asn
  gateway : Ipv4
  deriving DecidableEq

/-- The system counts before the gateway. -/
def Endpoint.rank (endpoint : Endpoint) : Nat :=
  UInt32.size * endpoint.asn.toNat + endpoint.gateway.bits.toNat

/-- Zero stands for a system or a gateway that is missing. -/
def Endpoint.isValid (endpoint : Endpoint) : Bool :=
  endpoint.asn ≠ 0 && endpoint.gateway ≠ Ipv4.unspecified

/-- Two systems can reach each other through their gateways during a contact.
It lasts from its start for its duration in milliseconds. -/
structure Contact where
  start : Instant
  duration : UInt64
  first : Endpoint
  second : Endpoint
  deriving DecidableEq

/-- A contact of a system with itself is inert, and so is one with a zero field. -/
def Contact.isValid (contact : Contact) : Bool :=
  contact.start ≠ 0 && contact.duration ≠ 0 && contact.first.isValid && contact.second.isValid &&
    contact.first.asn ≠ contact.second.asn

/-- The last instant that can be written bounds every end. -/
def Contact.stop (contact : Contact) : Instant :=
  UInt64.ofNat (min (contact.start.toNat + contact.duration.toNat) (UInt64.size - 1))

/-- A contact joins its two systems in either order. -/
def Contact.joins (contact : Contact) (left right : Asn) : Bool :=
  (left == contact.first.asn && right == contact.second.asn) ||
    (left == contact.second.asn && right == contact.first.asn)

/-- The endpoint that has the number stands opposite the one that is returned. -/
def Contact.opposite? (contact : Contact) (asn : Asn) : Option Endpoint :=
  if asn = contact.first.asn then some contact.second
  else if asn = contact.second.asn then some contact.first
  else none

/-- The system that can be reached from here during the contact. -/
def Contact.otherAsn? (contact : Contact) (asn : Asn) : Option Asn :=
  (contact.opposite? asn).map (·.asn)

/-- The flipped declaration names the second endpoint first. -/
def Contact.flip (contact : Contact) : Contact :=
  { contact with first := contact.second, second := contact.first }

@[simp] theorem Contact.flip_flip (contact : Contact) : contact.flip.flip = contact := rfl

/-- The canonical declaration names the lower endpoint first. -/
def Contact.canonical (contact : Contact) : Contact :=
  if contact.first.rank ≤ contact.second.rank then contact else contact.flip

/-- A contact may be declared from either side. -/
def Contact.Same (left right : Contact) : Prop := left.canonical = right.canonical

instance (left right : Contact) : Decidable (left.Same right) :=
  inferInstanceAs (Decidable (_ = _))

/-- The fields of a declaration are the digits of one number. -/
def Contact.declaredRank (contact : Contact) : Nat :=
  ((contact.start.toNat * UInt64.size + contact.duration.toNat) * UInt64.size +
    contact.first.rank) * UInt64.size + contact.second.rank

/-- Both declarations of a contact have the same rank. -/
def Contact.rank (contact : Contact) : Nat := contact.canonical.declaredRank

/-- The fields stand in the order of the declaration. -/
def Contact.fields (contact : Contact) : List Nat :=
  [contact.start.toNat, contact.duration.toNat, contact.first.asn.toNat,
    contact.first.gateway.bits.toNat, contact.second.asn.toNat,
    contact.second.gateway.bits.toNat]

/-- The words that identify a contact are the fields of its canonical declaration. -/
def Contact.words (contact : Contact) : List Nat := contact.canonical.fields

/-- Contacts are ordered by start, duration, lower endpoint and upper endpoint. -/
def Contact.order (left right : Contact) : Ordering := compare left.rank right.rank

/-- Any two contacts can be compared. -/
def Contact.compare? (left right : Contact) : Option Ordering := some (left.order right)

/-- The rank of an endpoint has 64 bits. -/
theorem Endpoint.rank_lt (endpoint : Endpoint) : endpoint.rank < UInt64.size := by
  have asnBound := endpoint.asn.toNat_lt
  have gatewayBound := endpoint.gateway.bits.toNat_lt
  simp only [Endpoint.rank, UInt32.size, UInt64.size]
  omega

/-- The rank tells the system and its gateway. -/
theorem Endpoint.eq_of_rank_eq {left right : Endpoint} (equal : left.rank = right.rank) :
    left = right := by
  obtain ⟨leftAsn, ⟨leftBits⟩⟩ := left
  obtain ⟨rightAsn, ⟨rightBits⟩⟩ := right
  have leftBound := leftBits.toNat_lt
  have rightBound := rightBits.toNat_lt
  simp only [Endpoint.rank, UInt32.size] at equal
  have asnEqual : leftAsn = rightAsn := UInt32.toNat_inj.mp (by omega)
  have bitsEqual : leftBits = rightBits := UInt32.toNat_inj.mp (by omega)
  rw [asnEqual, bitsEqual]

/-- The rank of a declaration tells all of its fields. -/
theorem Contact.eq_of_declaredRank_eq {left right : Contact}
    (equal : left.declaredRank = right.declaredRank) : left = right := by
  have leftFirst := left.first.rank_lt
  have leftSecond := left.second.rank_lt
  have rightFirst := right.first.rank_lt
  have rightSecond := right.second.rank_lt
  have leftDuration := left.duration.toNat_lt
  have rightDuration := right.duration.toNat_lt
  simp only [Contact.declaredRank, UInt64.size] at *
  have second := Endpoint.eq_of_rank_eq (show left.second.rank = right.second.rank by omega)
  have first := Endpoint.eq_of_rank_eq (show left.first.rank = right.first.rank by omega)
  have duration := UInt64.toNat_inj.mp (show left.duration.toNat = right.duration.toNat by omega)
  have start := UInt64.toNat_inj.mp (show left.start.toNat = right.start.toNat by omega)
  obtain ⟨_, _, _, _⟩ := left
  obtain ⟨_, _, _, _⟩ := right
  simp_all

/-- The canonical order tells different contacts apart. -/
theorem Contact.rank_eq_iff {left right : Contact} : left.rank = right.rank ↔ left.Same right :=
  ⟨Contact.eq_of_declaredRank_eq, fun same => congrArg Contact.declaredRank same⟩

def Contact.text (contact : Contact) : String :=
  "<Contact AS" ++ contact.first.asn.text ++ " (" ++ contact.first.gateway.text ++ ") <-> AS" ++
    contact.second.asn.text ++ " (" ++ contact.second.gateway.text ++ ") start=" ++
    contact.start.text ++ " duration=" ++ Decimal.write contact.duration.toNat ++ "ms>"

end ContactPlan
