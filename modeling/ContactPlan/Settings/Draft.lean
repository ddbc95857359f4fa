import ContactPlan.Contact.Basic
import ContactPlan.Instant.Reader
import ContactPlan.Link.Neighbor
import ContactPlan.Route.Attributes
import ContactPlan.Store.Basic
import ContactPlan.Toml.Document

namespace ContactPlan

namespace Toml

def Value.text? : Value → Option String
  | .text value => some value
  | _ => none

/-- A setting that is a number is not negative and has a bound. -/
def Value.natural? (bound : Nat) : Value → Option Nat
  | .integer value => if 0 ≤ value ∧ value < bound then some value.toNat else none
  | _ => none

/-- One wrong item makes the whole list wrong. -/
def Value.list? {Item : Type} (read : Value → Option Item) : Value → Option (List Item)
  | .array values => values.mapM read
  | _ => none

/-- A record is a table, or an array of all its fields in order. -/
def Value.fields? (names : List String) : Value → Option (List (Option Value))
  | .table _ members => names.mapM (Members.unique? members)
  | .array values => if values.length = names.length then some (values.map some) else none
  | _ => none

/-- A missing field is a fault. -/
def required? {Item : Type} (read : Value → Option Item) (field : Option Value) : Option Item :=
  field.bind read

/-- A missing field is not a fault, but a wrong one is. -/
def optional? {Item : Type} (read : Value → Option Item) :
    Option Value → Option (Option Item)
  | none => some none
  | some value => (read value).map some

/-- A missing field has a default, but a wrong one is a fault. -/
def withDefault? {Item : Type} (default : Item) (read : Value → Option Item) :
    Option Value → Option Item
  | none => some default
  | some value => read value

end Toml

namespace Settings

open Toml

/-- An integer of 32 bits. -/
def word? (value : Value) : Option UInt32 := (value.natural? UInt32.size).map UInt32.ofNat

/-- An integer of 64 bits. -/
def duration? (value : Value) : Option UInt64 := (value.natural? UInt64.size).map UInt64.ofNat

def instant? (value : Value) : Option Instant := value.text?.bind Instant.ofText?

def gateway? (value : Value) : Option Ipv4 := value.text?.bind Ipv4.ofText?

def address? (value : Value) : Option Address := value.text?.bind Address.ofText?

def network? (value : Value) : Option Network := value.text?.bind Network.ofText?

/-- A route whose path is still a list of texts. -/
structure RouteDraft where
  network : Network
  nextHop : Address
  path : List String
  origin : Option String
  localPreference : Option UInt32
  discriminator : Option UInt32

/-- Settings as they stand in a document. -/
structure Draft where
  routerId : Address
  own : Asn
  storePath : String
  exportPath : Option String
  neighbors : List Neighbor
  routes : List RouteDraft
  contacts : List Contact

def neighbor? (value : Value) : Option Neighbor := do
  match ← value.fields? ["address", "interface"] with
  | [address, interface] =>
      return ⟨← required? gateway? address, ← required? Value.text? interface⟩
  | _ => none

def route? (value : Value) : Option RouteDraft := do
  match ← value.fields? ["prefix", "next_hop", "as_path", "origin", "local_pref", "med"] with
  | [network, nextHop, path, origin, localPreference, discriminator] =>
      return { network := ← required? network? network
               nextHop := ← required? address? nextHop
               path := ← withDefault? [] (Value.list? Value.text?) path
               origin := ← optional? Value.text? origin
               localPreference := ← optional? word? localPreference
               discriminator := ← optional? word? discriminator }
  | _ => none

def contact? (value : Value) : Option Contact := do
  match ← value.fields? ["start_time", "duration_ms", "asn1", "gw1", "asn2", "gw2"] with
  | [start, duration, firstAsn, firstGateway, secondAsn, secondGateway] =>
      return { start := ← required? instant? start
               duration := ← required? duration? duration
               first := ⟨← required? word? firstAsn, ← required? gateway? firstGateway⟩
               second := ⟨← required? word? secondAsn, ← required? gateway? secondGateway⟩ }
  | _ => none

/-- Names without a meaning are passed over. -/
def Draft.ofMembers? (members : Members) : Option Draft := do
  return { routerId := ← required? address? (← members.unique? "router_id")
           own := ← required? word? (← members.unique? "local_as")
           storePath :=
             ← withDefault? Store.defaultPath Value.text? (← members.unique? "store_path")
           exportPath := ← optional? Value.text? (← members.unique? "export_path")
           neighbors := ← withDefault? [] (Value.list? neighbor?) (← members.unique? "neighbors")
           routes := ← withDefault? [] (Value.list? route?) (← members.unique? "static_routes")
           contacts := ← withDefault? [] (Value.list? contact?) (← members.unique? "contacts") }

def Draft.ofText? (text : String) : Option Draft := (Toml.read? text).bind Draft.ofMembers?

end Settings

end ContactPlan
