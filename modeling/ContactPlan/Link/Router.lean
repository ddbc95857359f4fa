import ContactPlan.Contact.Event
import ContactPlan.Link.Neighbor
import ContactPlan.Link.Splice
import ContactPlan.Route.Table

namespace ContactPlan

/-- A router has a number of its own and knows its neighbors. -/
structure Router where
  own : Asn
  resolver : Resolver

/-- The other routes to the network of a route lend their tails to its candidates. -/
def Router.candidates (router : Router) (contact : Contact) (route : Route)
    (routes : List Route) : List (List Asn) :=
  Splice.candidates contact router.own route.path
    ((routes.filter fun other => other.id ≠ route.id).map Route.path)

/-- A candidate with a first hop of its own leaves through the gateway of the contact. -/
def Router.nextHop? (router : Router) (contact : Contact) (route : Route)
    (candidate : List Asn) : Option (Option Address) :=
  if candidate.head? = route.path.head? then some route.attributes.nextHop
  else
    match contact.nextHop router.own router.resolver with
    | .ok neighbor => some (some (.v4 neighbor.address))
    | .error _ => none

/-- A candidate whose gateway has no neighbor is dropped. -/
def Router.offer? (router : Router) (contact : Contact) (route : Route)
    (candidate : List Asn) : Option Attributes :=
  (router.nextHop? contact route candidate).map fun nextHop =>
    route.attributes.reroute (Segment.ofPath candidate) nextHop

/-- The routes to one network are extended across the contact in their order. -/
def Router.offers (router : Router) (contact : Contact) (routes : List Route) :
    List Attributes :=
  routes.flatMap fun route =>
    (router.candidates contact route routes).filterMap (router.offer? contact route)

/-- Two routes to one network are alike when next hop and path agree. -/
def Attributes.Alike (left right : Attributes) : Prop :=
  left.nextHop = right.nextHop ∧ left.path = right.path

instance (left right : Attributes) : Decidable (left.Alike right) :=
  inferInstanceAs (Decidable (_ ∧ _))

def RouteChange.announcesAlike (network : Network) (attributes : Attributes) :
    RouteChange → Bool
  | .announce other offered _ => other = network && offered.Alike attributes
  | .withdraw _ _ => false

/-- A route is new when neither the table nor a pending announcement has one alike. -/
def Attributes.isNew (attributes : Attributes) (network : Network) (routes : List Route)
    (pending : List RouteChange) : Bool :=
  !(routes.any fun route => route.network = network && route.attributes.Alike attributes) &&
    !(pending.any (RouteChange.announcesAlike network attributes))

/-- A route that is announced already is not announced again. -/
def Attributes.announceIfNew (attributes : Attributes) (network : Network)
    (routes : List Route) (pending : List RouteChange) : List RouteChange :=
  if attributes.isNew network routes pending then
    pending ++ [.announce network attributes .contact]
  else pending

/-- The networks are walked in the given order, and what is pending counts for all of them. -/
def Router.openingsAlong (router : Router) (contact : Contact) (table : Table)
    (networks : List Network) : List RouteChange :=
  networks.foldl (fun pending network =>
    let routes := table.routesTo network
    (router.offers contact routes).foldl
      (fun pending attributes => attributes.announceIfNew network routes pending) pending) []

def Router.openings (router : Router) (contact : Contact) (table : Table) : List RouteChange :=
  router.openingsAlong contact table table.networks

/-- Every route that crosses the contact is withdrawn. -/
def Router.closingsAlong (router : Router) (contact : Contact) (table : Table)
    (networks : List Network) : List RouteChange :=
  networks.flatMap fun network =>
    ((table.routesTo network).filter fun route => contact.crossedBy router.own route.path).map
      fun route => .withdraw network route.id

def Router.closings (router : Router) (contact : Contact) (table : Table) : List RouteChange :=
  router.closingsAlong contact table table.networks

/-- An opening announces routes and a closing withdraws them. -/
def Router.changes (router : Router) (event : Event) (table : Table) : List RouteChange :=
  match event.boundary with
  | .opening => router.openings event.contact table
  | .closing => router.closings event.contact table

/-- Handling an event returns the table and the number of routes that changed. -/
def Router.handle (router : Router) (event : Event) (table : Table) : Table × Nat :=
  table.apply (router.changes event table)

end ContactPlan
