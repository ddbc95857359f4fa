import ContactPlan.Proofs.Link.Crossing
import ContactPlan.Proofs.Route.Change

namespace ContactPlan

namespace Router

/-- The candidate becomes the path of the offer. -/
theorem path_of_offer? {router : Router} {contact : Contact} {route : Route}
    {candidate : List Asn} {attributes : Attributes}
    (offer : router.offer? contact route candidate = some attributes) :
    attributes.path = candidate := by
  obtain ⟨nextHop, _, rfl⟩ := Option.map_eq_some_iff.mp offer
  exact Segment.flatten_ofPath candidate

/-- A route that does not cross the contact is extended across it by a tail of another path. -/
def Extends (router : Router) (contact : Contact) (route : Route) (other : List Asn)
    (attributes : Attributes) : Prop :=
  ¬contact.crossedBy router.own route.path ∧
    ∃ cut ∈ Splice.cuts router.own route.path, ∃ start, contact.otherAsn? cut.hop = some start ∧
      ∃ tail ∈ Splice.tails start cut.hop other,
        router.offer? contact route (cut.head ++ tail) = some attributes

/-- Offers extend a route by the tails of the routes with other numbers. -/
theorem mem_offers {router : Router} {contact : Contact} {routes : List Route}
    {attributes : Attributes} :
    attributes ∈ router.offers contact routes ↔
      ∃ route ∈ routes, ∃ other ∈ routes, other.id ≠ route.id ∧
        router.Extends contact route other.path attributes := by
  unfold offers candidates Extends
  simp only [List.mem_flatMap, List.mem_filterMap, Splice.mem_candidates, List.mem_map,
    List.mem_filter, decide_eq_true_iff]
  constructor
  · rintro ⟨route, isRoute, candidate, ⟨notCrossed, cut, isCut, start, opposite, path,
      ⟨other, ⟨isOther, apart⟩, rfl⟩, tail, isTail, rfl⟩, offer⟩
    exact ⟨route, isRoute, other, isOther, apart, notCrossed, cut, isCut, start, opposite, tail,
      isTail, offer⟩
  · rintro ⟨route, isRoute, other, isOther, apart, notCrossed, cut, isCut, start, opposite, tail,
      isTail, offer⟩
    exact ⟨route, isRoute, _, ⟨notCrossed, cut, isCut, start, opposite, _,
      ⟨other, ⟨isOther, apart⟩, rfl⟩, tail, isTail, rfl⟩, offer⟩

/-- The path of an extension is spliced from two paths. -/
theorem Extends.spliced {router : Router} {contact : Contact} {route : Route} {other : List Asn}
    {attributes : Attributes} (extend : router.Extends contact route other attributes) :
    Splice.Spliced contact (router.own :: route.path) other
      (router.own :: attributes.path) := by
  obtain ⟨-, cut, isCut, start, opposite, tail, isTail, offer⟩ := extend
  rw [path_of_offer? offer]
  exact Splice.spliced_of_cut isCut opposite isTail

/-- What is offered is spliced from the paths of two of the routes. -/
theorem spliced_of_mem_offers {router : Router} {contact : Contact} {routes : List Route}
    {attributes : Attributes} (member : attributes ∈ router.offers contact routes) :
    ∃ route ∈ routes, ∃ other ∈ routes,
      Splice.Spliced contact (router.own :: route.path) other.path
        (router.own :: attributes.path) := by
  obtain ⟨route, isRoute, other, isOther, -, extend⟩ := mem_offers.mp member
  exact ⟨route, isRoute, other, isOther, extend.spliced⟩

/-- Every offer crosses the contact that makes it possible. -/
theorem crossedBy_of_mem_offers {router : Router} {contact : Contact} {routes : List Route}
    {attributes : Attributes} (member : attributes ∈ router.offers contact routes) :
    contact.crossedBy router.own attributes.path := by
  obtain ⟨route, -, other, -, spliced⟩ := spliced_of_mem_offers member
  exact spliced.adjacentIn

/-- An opening announces what it offers for the routes to a network. -/
def Opens (router : Router) (contact : Contact) (table : Table) (change : RouteChange) : Prop :=
  ∃ network attributes source, change = .announce network attributes source ∧
    source = .contact ∧ attributes ∈ router.offers contact (table.routesTo network)

theorem opens_announceIfNew {router : Router} {contact : Contact} {table : Table}
    {network : Network} {attributes : Attributes}
    (offered : attributes ∈ router.offers contact (table.routesTo network))
    {pending : List RouteChange} (opens : ∀ change ∈ pending, router.Opens contact table change) :
    ∀ change ∈ attributes.announceIfNew network (table.routesTo network) pending,
      router.Opens contact table change := by
  unfold Attributes.announceIfNew
  split
  · intro change member
    rcases List.mem_append.mp member with old | new
    · exact opens change old
    · rw [List.mem_singleton.mp new]
      exact ⟨network, attributes, .contact, rfl, rfl, offered⟩
  · exact opens

/-- All announcements come from offers while the offers are gone through. -/
theorem opens_offered {router : Router} {contact : Contact} {table : Table} {network : Network}
    {offered : List Attributes}
    (offers : ∀ attributes ∈ offered, attributes ∈ router.offers contact (table.routesTo network))
    {pending : List RouteChange} (opens : ∀ change ∈ pending, router.Opens contact table change) :
    ∀ change ∈ offered.foldl (fun pending attributes =>
      attributes.announceIfNew network (table.routesTo network) pending) pending,
      router.Opens contact table change := by
  induction offered generalizing pending with
  | nil => exact opens
  | cons attributes rest inductionHypothesis =>
      rw [List.foldl_cons]
      apply inductionHypothesis
      · exact fun attributes member => offers attributes (List.mem_cons_of_mem _ member)
      · exact opens_announceIfNew (offers attributes List.mem_cons_self) opens

/-- All announcements of an opening come from offers. -/
theorem opens_openingsAlong (router : Router) (contact : Contact) (table : Table)
    (networks : List Network) :
    ∀ change ∈ router.openingsAlong contact table networks,
      router.Opens contact table change := by
  have walk (networks : List Network) {pending : List RouteChange}
      (opens : ∀ change ∈ pending, router.Opens contact table change) :
      ∀ change ∈ networks.foldl (fun pending network =>
        (router.offers contact (table.routesTo network)).foldl
          (fun pending attributes =>
            attributes.announceIfNew network (table.routesTo network) pending) pending) pending,
        router.Opens contact table change := by
    induction networks generalizing pending with
    | nil => exact opens
    | cons network rest inductionHypothesis =>
        rw [List.foldl_cons]
        apply inductionHypothesis
        exact opens_offered (fun _ => id) opens
  exact walk networks (by simp)

/-- An opening adds routes of contacts that it offers and leaves the others as they are. -/
theorem routes_openingsAlong (router : Router) (contact : Contact) (table : Table)
    (networks : List Network) :
    ∃ added, (table.apply (router.openingsAlong contact table networks)).1.routes =
        table.routes ++ added ∧
      ∀ route ∈ added, route.source = .contact ∧
        route.attributes ∈ router.offers contact (table.routesTo route.network) :=
  table.routes_apply_announcements
    (fun network attributes source => source = .contact ∧
      attributes ∈ router.offers contact (table.routesTo network))
    _ (router.opens_openingsAlong contact table networks)

/-- A closing withdraws routes that cross its contact. -/
theorem withdraws_closingsAlong {router : Router} {contact : Contact} {table : Table}
    {networks : List Network} {change : RouteChange}
    (member : change ∈ router.closingsAlong contact table networks) :
    ∃ route ∈ table.routes, contact.crossedBy router.own route.path ∧
      change = .withdraw route.network route.id := by
  obtain ⟨network, _, fromNetwork⟩ := List.mem_flatMap.mp member
  obtain ⟨route, isCrossing, rfl⟩ := List.mem_map.mp fromNetwork
  obtain ⟨isRoute, crosses⟩ := List.mem_filter.mp isCrossing
  obtain ⟨inTable, isTo⟩ := List.mem_filter.mp isRoute
  exact ⟨route, inTable, crosses, by rw [of_decide_eq_true isTo]⟩

/-- Every route to a listed network that crosses the contact is withdrawn. -/
theorem mem_closingsAlong {router : Router} {contact : Contact} {table : Table}
    {networks : List Network} {route : Route} (inTable : route ∈ table.routes)
    (listed : route.network ∈ networks) (crosses : contact.crossedBy router.own route.path) :
    .withdraw route.network route.id ∈ router.closingsAlong contact table networks := by
  refine List.mem_flatMap.mpr ⟨route.network, listed, List.mem_map.mpr ⟨route, ?_, rfl⟩⟩
  exact List.mem_filter.mpr ⟨List.mem_filter.mpr ⟨inTable, decide_eq_true rfl⟩, crosses⟩

/-- A closing keeps the routes that it does not withdraw. -/
theorem routes_apply_closingsAlong (router : Router) (contact : Contact) (table : Table)
    (networks : List Network) :
    (table.apply (router.closingsAlong contact table networks)).1.routes =
      table.routes.filter fun route =>
        !((router.closingsAlong contact table networks).any (RouteChange.removes route)) := by
  apply Table.routes_apply_withdrawals
  intro change member
  obtain ⟨route, -, -, rfl⟩ := withdraws_closingsAlong member
  exact ⟨_, _, rfl⟩

/-- A closing leaves no route that crosses its contact, whatever the numbers of the routes are. -/
theorem mem_routes_closingsAlong {router : Router} {contact : Contact} {table : Table}
    {networks : List Network} (listed : ∀ route ∈ table.routes, route.network ∈ networks)
    {route : Route}
    (member : route ∈ (table.apply (router.closingsAlong contact table networks)).1.routes) :
    route ∈ table.routes ∧ ¬contact.crossedBy router.own route.path := by
  rw [routes_apply_closingsAlong, List.mem_filter] at member
  obtain ⟨inTable, kept⟩ := member
  refine ⟨inTable, fun crosses => ?_⟩
  have removed : (router.closingsAlong contact table networks).any (RouteChange.removes route) :=
    List.any_eq_true.mpr ⟨_, mem_closingsAlong inTable (listed route inTable) crosses,
      by simp [RouteChange.removes]⟩
  rw [removed] at kept
  cases kept

/-- A closing removes the routes that cross its contact and no others. -/
theorem routes_closingsAlong (router : Router) (contact : Contact) {table : Table}
    (distinct : (table.routes.map Route.id).Nodup) {networks : List Network}
    (listed : ∀ route ∈ table.routes, route.network ∈ networks) :
    (table.apply (router.closingsAlong contact table networks)).1.routes =
      table.routes.filter fun route => !contact.crossedBy router.own route.path := by
  rw [routes_apply_closingsAlong]
  apply List.filter_congr
  intro route inTable
  congr 1
  apply Bool.eq_iff_iff.mpr
  rw [List.any_eq_true]
  constructor
  · rintro ⟨change, member, removes⟩
    obtain ⟨other, otherInTable, crosses, rfl⟩ := withdraws_closingsAlong member
    have sameId : route.id = other.id := by
      simpa using (Bool.and_eq_true_iff.mp removes).2
    rw [Table.eq_of_id_eq distinct inTable otherInTable sameId]
    exact crosses
  · intro crosses
    refine ⟨_, mem_closingsAlong inTable (listed route inTable) crosses, ?_⟩
    simp [RouteChange.removes]

def changesAlong (router : Router) (event : Event) (table : Table) (networks : List Network) :
    List RouteChange :=
  match event.boundary with
  | .opening => router.openingsAlong event.contact table networks
  | .closing => router.closingsAlong event.contact table networks

/-- One order is that of the networks themselves. -/
theorem changesAlong_networks (router : Router) (event : Event) (table : Table) :
    router.changesAlong event table table.networks = router.changes event table := rfl

def handleAlong (router : Router) (event : Event) (table : Table) (networks : List Network) :
    Table × Nat :=
  table.apply (router.changesAlong event table networks)

/-- An event is handled in the order of the networks themselves. -/
theorem handleAlong_networks (router : Router) (event : Event) (table : Table) :
    router.handleAlong event table table.networks = router.handle event table := rfl

end Router

end ContactPlan
