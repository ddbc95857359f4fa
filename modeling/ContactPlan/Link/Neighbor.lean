import ContactPlan.Contact.Basic

namespace ContactPlan

/-- A neighbor is reached by its address through one interface. -/
structure Neighbor where
  address : Ipv4
  interface : String
  deriving DecidableEq

def Neighbor.text (neighbor : Neighbor) : String :=
  neighbor.address.text ++ " via " ++ neighbor.interface

/-- A resolver knows which neighbor answers for a gateway. -/
structure Resolver where
  resolve? : Ipv4 → Option Neighbor

/-- Of several neighbors with one address the last answers. -/
def Neighbor.resolve? (neighbors : List Neighbor) (gateway : Ipv4) : Option Neighbor :=
  neighbors.reverse.find? fun neighbor => neighbor.address = gateway

def Neighbor.resolver (neighbors : List Neighbor) : Resolver := ⟨Neighbor.resolve? neighbors⟩

instance : Coe (List Neighbor) Resolver := ⟨Neighbor.resolver⟩

/-- Every address counts once. -/
def Neighbor.addresses : List Neighbor → List Ipv4
  | [] => []
  | neighbor :: rest =>
      let addresses := Neighbor.addresses rest
      if neighbor.address ∈ addresses then addresses else neighbor.address :: addresses

/-- The gateway of a system is the one on its own side. -/
def Contact.gateway? (contact : Contact) (own : Asn) : Option Ipv4 :=
  if own = contact.first.asn then some contact.first.gateway
  else if own = contact.second.asn then some contact.second.gateway
  else none

/-- A router crosses a contact only from an endpoint and through a neighbor. -/
inductive CrossingFault where
  | notAnEndpoint (own first second : Asn)
  | unresolvedGateway (gateway : Ipv4)

def CrossingFault.message : CrossingFault → String
  | .notAnEndpoint own first second =>
      "AS" ++ Decimal.write own.toNat ++ " is not an endpoint of contact AS" ++
        Decimal.write first.toNat ++ " <-> AS" ++ Decimal.write second.toNat
  | .unresolvedGateway gateway => "no neighbor for gateway " ++ gateway.text

/-- The neighbor that answers for the gateway on the own side. -/
def Contact.nextHop (contact : Contact) (own : Asn) (resolver : Resolver) :
    Except CrossingFault Neighbor :=
  match contact.gateway? own with
  | none => .error (.notAnEndpoint own contact.first.asn contact.second.asn)
  | some gateway =>
      match resolver.resolve? gateway with
      | none => .error (.unresolvedGateway gateway)
      | some neighbor => .ok neighbor

end ContactPlan
