import ContactPlan.Proofs.Link.Distinct

namespace ContactPlan

namespace Attributes

/-- An offer is not new any more once it has had its turn. -/
theorem not_isNew_announceIfNew (attributes : Attributes) (network : Network)
    (routes : List Route) (pending : List RouteChange) :
    ¬attributes.isNew network routes (attributes.announceIfNew network routes pending) := by
  unfold announceIfNew
  by_cases isNew : attributes.isNew network routes pending
  · rw [if_pos isNew, isNew_iff]
    simp [RouteChange.triple?]
  · rwa [if_neg isNew]

/-- What is new stays so when less is pending. -/
theorem isNew_of_announceIfNew {attributes other : Attributes} {network : Network}
    {routes : List Route} {pending : List RouteChange}
    (isNew : attributes.isNew network routes (other.announceIfNew network routes pending)) :
    attributes.isNew network routes pending := by
  unfold announceIfNew at isNew
  split at isNew
  · rw [isNew_iff, List.filterMap_append, List.mem_append, not_or] at isNew
    exact isNew_iff.mpr ⟨isNew.1, isNew.2.1⟩
  · exact isNew

/-- Offers that are alike are new together. -/
theorem Alike.isNew_iff {left right : Attributes} (alike : left.Alike right) (network : Network)
    (routes : List Route) (pending : List RouteChange) :
    left.isNew network routes pending ↔ right.isNew network routes pending := by
  rw [Attributes.isNew_iff, Attributes.isNew_iff, triple_eq_iff.mpr ⟨rfl, alike⟩]

end Attributes

namespace Router

/-- The router leaves for a path by the next hop of the route that has the same first hop.
For any other path it needs a neighbor that answers for the gateway on its own side. -/
def LeavesBy (router : Router) (contact : Contact) (route : Route) (path : List Asn)
    (nextHop : Option Address) : Prop :=
  if path.head? = route.path.head? then nextHop = route.attributes.nextHop
  else ∃ gateway neighbor, contact.gateway? router.own = some gateway ∧
    router.resolver.resolve? gateway = some neighbor ∧ nextHop = some (.v4 neighbor.address)

/-- Among the routes to its network, a route produces its candidates with the next hops by which
the router leaves for them. -/
def Produces (router : Router) (contact : Contact) (routes : List Route) (route : Route)
    (nextHop : Option Address) (path : List Asn) : Prop :=
  path ∈ Splice.candidates contact router.own route.path
      ((routes.filter fun other => other.id ≠ route.id).map Route.path) ∧
    router.LeavesBy contact route path nextHop

/-- The next hop of a path is the one by which it leaves the router. -/
theorem nextHop?_eq_some_iff {router : Router} {contact : Contact} {route : Route}
    {path : List Asn} {nextHop : Option Address} :
    router.nextHop? contact route path = some nextHop ↔
      router.LeavesBy contact route path nextHop := by
  unfold nextHop? LeavesBy
  by_cases sameFirst : path.head? = route.path.head?
  · rw [if_pos sameFirst, if_pos sameFirst, Option.some.injEq, eq_comm]
  · rw [if_neg sameFirst, if_neg sameFirst]
    unfold Contact.nextHop
    cases contact.gateway? router.own with
    | none => simp
    | some gateway =>
        cases resolved : router.resolver.resolve? gateway with
        | none => simp [resolved]
        | some neighbor => simp [resolved, eq_comm]

/-- The offers for a route are what it produces, with the preferences of the route. -/
theorem mem_filterMap_offer? {router : Router} {contact : Contact} {routes : List Route}
    {route : Route} {attributes : Attributes} :
    attributes ∈ (router.candidates contact route routes).filterMap
        (router.offer? contact route) ↔
      router.Produces contact routes route attributes.nextHop attributes.path ∧
        attributes = route.attributes.reroute (Segment.ofPath attributes.path)
          attributes.nextHop := by
  rw [List.mem_filterMap]
  constructor
  · rintro ⟨path, isCandidate, offer⟩
    have isPath := path_of_offer? offer
    obtain ⟨nextHop, found, rfl⟩ := Option.map_eq_some_iff.mp offer
    rw [isPath]
    exact ⟨⟨isCandidate, nextHop?_eq_some_iff.mp found⟩, rfl⟩
  · rintro ⟨⟨isCandidate, leaves⟩, inherits⟩
    apply Exists.intro attributes.path
    apply And.intro isCandidate
    exact Option.map_eq_some_iff.mpr
      ⟨attributes.nextHop, nextHop?_eq_some_iff.mpr leaves, inherits.symm⟩

/-- What a route produces is offered with its preferences. -/
theorem Produces.offered {router : Router} {contact : Contact} {routes : List Route}
    {route : Route} {nextHop : Option Address} {path : List Asn}
    (produces : router.Produces contact routes route nextHop path) :
    ∃ attributes ∈ (router.candidates contact route routes).filterMap
        (router.offer? contact route),
      attributes.nextHop = nextHop ∧ attributes.path = path := by
  have samePath : (route.attributes.reroute (Segment.ofPath path) nextHop).path = path :=
    Segment.flatten_ofPath path
  apply Exists.intro (route.attributes.reroute (Segment.ofPath path) nextHop)
  rw [mem_filterMap_offer?, samePath]
  exact ⟨⟨produces, rfl⟩, rfl, rfl⟩

/-- No offered path is empty. -/
theorem Produces.path_ne_nil {router : Router} {contact : Contact} {routes : List Route}
    {route : Route} {nextHop : Option Address} {path : List Asn}
    (produces : router.Produces contact routes route nextHop path) : path ≠ [] := by
  obtain ⟨-, cut, isCut, start, opposite, other, -, tail, isTail, rfl⟩ :=
    Splice.mem_candidates.mp produces.1
  exact (Splice.spliced_of_cut isCut opposite isTail).getLast?_eq.1

/-- An offer has the next hop and the path of something that one of the routes produces. -/
theorem mem_triples_offers {router : Router} {contact : Contact} {network : Network}
    {routes : List Route} {nextHop : Option Address} {path : List Asn} :
    (network, nextHop, path) ∈
        (router.offers contact routes).map (Attributes.triple · network) ↔
      ∃ route ∈ routes, router.Produces contact routes route nextHop path := by
  unfold offers
  rw [List.mem_map]
  constructor
  · rintro ⟨attributes, isOffered, isTriple⟩
    obtain ⟨route, isRoute, fromRoute⟩ := List.mem_flatMap.mp isOffered
    cases isTriple
    exact ⟨route, isRoute, (mem_filterMap_offer?.mp fromRoute).1⟩
  · rintro ⟨route, isRoute, produces⟩
    obtain ⟨attributes, isOffered, rfl, rfl⟩ := produces.offered
    exact ⟨attributes, List.mem_flatMap.mpr ⟨route, isRoute, isOffered⟩, rfl⟩

/-- What is announced is the first of the offers that are alike. -/
theorem first_of_mem_announceNew {network : Network} {routes : List Route}
    {offered : List Attributes} {pending : List RouteChange} {change : RouteChange}
    (member : change ∈ announceNew network routes offered pending) :
    change ∈ pending ∨ ∃ attributes, change = .announce network attributes .contact ∧
      attributes.isNew network routes pending ∧
      offered.find? (fun offer => offer.Alike attributes) = some attributes := by
  induction offered generalizing pending with
  | nil => exact .inl member
  | cons first rest inductionHypothesis =>
      have later : change ∈ announceNew network routes rest
        (first.announceIfNew network routes pending) := member
      rcases inductionHypothesis later with isPending | ⟨attributes, isChange, isNew, isFirst⟩
      · unfold Attributes.announceIfNew at isPending
        split at isPending
        next firstIsNew =>
          rcases List.mem_append.mp isPending with old | new
          · exact .inl old
          · exact .inr ⟨first, List.mem_singleton.mp new, firstIsNew,
              List.find?_cons_of_pos (decide_eq_true ⟨rfl, rfl⟩)⟩
        · exact .inl isPending
      -- The first offer has had its turn, so an offer that is new after it is not alike.
      · have notFirst : ¬first.Alike attributes := fun alike =>
          first.not_isNew_announceIfNew network routes pending ((alike.isNew_iff ..).mpr isNew)
        have stillFirst : (first :: rest).find? (fun offer => offer.Alike attributes) =
            some attributes := by
          rw [List.find?_cons, decide_eq_false notFirst, isFirst]
        exact .inr ⟨attributes, isChange, Attributes.isNew_of_announceIfNew isNew, stillFirst⟩

/-- The first of the offers that are alike comes from the first of the routes that produce it. -/
theorem route_of_first_offer {router : Router} {contact : Contact} {routes : List Route}
    {attributes : Attributes}
    (isFirst : (router.offers contact routes).find? (fun offer => offer.Alike attributes) =
      some attributes) :
    ∃ before route after, routes = before ++ route :: after ∧
      (router.Produces contact routes route attributes.nextHop attributes.path ∧
        attributes = route.attributes.reroute (Segment.ofPath attributes.path)
          attributes.nextHop) ∧
      ∀ earlier ∈ before,
        ¬router.Produces contact routes earlier attributes.nextHop attributes.path := by
  unfold offers at isFirst
  rw [List.find?_flatMap, List.findSome?_eq_some_iff] at isFirst
  obtain ⟨before, route, after, split, isOffer, notBefore⟩ := isFirst
  refine ⟨before, route, after, split,
    mem_filterMap_offer?.mp (List.mem_of_find?_eq_some isOffer), ?_⟩
  intro earlier isEarlier produces
  obtain ⟨offer, isOffered, sameNextHop, samePath⟩ := produces.offered
  have notAlike := List.find?_eq_none.mp (notBefore earlier isEarlier) offer isOffered
  exact notAlike (decide_eq_true ⟨sameNextHop, samePath⟩)

/-- Every announcement inherits from the first of the routes that produce it. -/
theorem source_of_mem_openingsAlong {router : Router} {contact : Contact} {table : Table}
    {walk : List Network} (walked : walk.Perm table.networks) {change : RouteChange}
    (member : change ∈ router.openingsAlong contact table walk) :
    ∃ network attributes, change = .announce network attributes .contact ∧
      ∃ before route after, table.routesTo network = before ++ route :: after ∧
        (router.Produces contact (table.routesTo network) route attributes.nextHop
            attributes.path ∧
          attributes = route.attributes.reroute (Segment.ofPath attributes.path)
            attributes.nextHop) ∧
        ∀ earlier ∈ before, ¬router.Produces contact (table.routesTo network) earlier
          attributes.nextHop attributes.path := by
  obtain ⟨network, attributes, source, rfl, rfl, -⟩ :=
    router.opens_openingsAlong contact table walk change member
  have own : RouteChange.announce network attributes .contact ∈
      router.openingsTo contact network (table.routesTo network) := by
    rw [← filter_openingsAlong router contact walked]
    exact List.mem_filter.mpr ⟨member, decide_eq_true rfl⟩
  rcases first_of_mem_announceNew own with pending | ⟨announced, isChange, -, isFirst⟩
  · cases pending
  · cases isChange
    exact ⟨network, attributes, rfl, route_of_first_offer isFirst⟩

/-- An opening announces each next hop and path that the routes to a network produce and do not
have, and it does so once. The announcement has one sequence of systems for its path, and it
inherits from the first of the routes that produce it. -/
theorem openingsAlong_announce_produced (router : Router) (contact : Contact) {table : Table}
    {walk : List Network} (walked : walk.Perm table.networks) :
    let changes := router.openingsAlong contact table walk
    (∀ network nextHop path,
      (network, nextHop, path) ∈ changes.filterMap RouteChange.triple? ↔
        (∃ route ∈ table.routesTo network,
          router.Produces contact (table.routesTo network) route nextHop path) ∧
        ∀ route ∈ table.routesTo network,
          ¬(route.attributes.nextHop = nextHop ∧ route.path = path)) ∧
    (changes.filterMap RouteChange.triple?).Nodup ∧
    ∀ change ∈ changes, ∃ network attributes, change = .announce network attributes .contact ∧
      attributes.segments = [.sequence attributes.path] ∧
      ∃ before route after, table.routesTo network = before ++ route :: after ∧
        router.Produces contact (table.routesTo network) route attributes.nextHop
          attributes.path ∧
        (∀ earlier ∈ before, ¬router.Produces contact (table.routesTo network) earlier
          attributes.nextHop attributes.path) ∧
        attributes.origin = route.attributes.origin ∧
        attributes.localPreference = route.attributes.localPreference ∧
        attributes.discriminator = route.attributes.discriminator := by
  intro changes
  refine ⟨?_, (router.fresh_openingsAlong contact table walk).distinct, ?_⟩
  · intro network nextHop path
    rw [mem_openingsAlong walked, mem_triples_offers]
    apply and_congr_right'
    rw [List.mem_map, not_exists]
    apply forall_congr'
    intro route
    rw [not_and]
    apply forall_congr'
    intro isRoute
    have isTo := (mem_routesTo isRoute).2
    simp [Route.triple, Attributes.triple, Route.path, isTo]
  · intro change member
    obtain ⟨network, attributes, rfl, before, route, after, split, ⟨produces, inherits⟩,
      notBefore⟩ := source_of_mem_openingsAlong walked member
    obtain ⟨hop, rest, isPath⟩ := List.exists_cons_of_ne_nil produces.path_ne_nil
    have oneSequence : attributes.segments = [.sequence attributes.path] := by
      have segments := congrArg Attributes.segments inherits
      rw [isPath] at segments ⊢
      exact segments
    have origin : attributes.origin = _ := congrArg Attributes.origin inherits
    have localPreference : attributes.localPreference = _ :=
      congrArg Attributes.localPreference inherits
    have discriminator : attributes.discriminator = _ :=
      congrArg Attributes.discriminator inherits
    exact ⟨network, attributes, rfl, oneSequence, before, route, after, split, produces,
      notBefore, origin, localPreference, discriminator⟩

def preferredRoute (id : Nat) (path : List Asn) (preference : UInt32) : Route :=
  let route := ringRoute id .configured path none
  { route with attributes := { route.attributes with localPreference := some preference } }

/-- Two of the routes differ in their preference and get the same path, and another path that they
get is there with the same next hop. -/
def preferredTable : Table :=
  ⟨[preferredRoute 1 [2, 4] 100, preferredRoute 2 [2, 3, 4] 200,
    ringRoute 3 .configured [5, 3, 6] none, ringRoute 4 .configured [3, 4] (some (.v4 ⟨11⟩)),
    sideRoute 5 [2, 4], sideRoute 6 [5, 3, 6]], 7⟩

/-- The route with the preference of 100 comes first, and its candidate is announced with that
preference. The other path is not announced again. -/
theorem openingsAlong_announce_produced_preferred :
    let contact := ringContact ⟨1, ⟨11⟩⟩ ⟨3, ⟨13⟩⟩
    let ringNetwork := (ringRoute 1 .configured [] none).network
    let walk := [(sideRoute 1 []).network, ringNetwork]
    let changes := ring.openingsAlong contact preferredTable walk
    walk.Perm preferredTable.networks ∧
      (ringNetwork, some (.v4 ⟨11⟩), [3, 6]) ∈ changes.filterMap RouteChange.triple? ∧
      (ringNetwork, some (.v4 ⟨11⟩), [3, 4]) ∉ changes.filterMap RouteChange.triple? ∧
      (changes.filterMap RouteChange.triple?).Nodup ∧
      ∃ attributes, .announce ringNetwork attributes .contact ∈ changes ∧
        attributes.path = [3, 6] ∧ attributes.segments = [.sequence attributes.path] ∧
        attributes.localPreference = some 100 := by
  intro contact ringNetwork walk changes
  have walked : walk.Perm preferredTable.networks := by decide
  obtain ⟨produced, once, inherit⟩ := ring.openingsAlong_announce_produced contact walked
  have produces : ring.Produces contact (preferredTable.routesTo ringNetwork)
      (preferredRoute 1 [2, 4] 100) (some (.v4 ⟨11⟩)) [3, 6] :=
    ⟨by decide, ⟨11⟩, ⟨⟨11⟩, "radio"⟩, rfl, by decide, rfl⟩
  let attributes : Attributes :=
    ⟨some (.v4 ⟨11⟩), .interior, [.sequence [3, 6]], some 100, none⟩
  have announced : .announce ringNetwork attributes .contact ∈ changes := by decide
  have oneSequence : attributes.segments = [.sequence attributes.path] := by
    obtain ⟨network, inherited, isChange, segments, -⟩ := inherit _ announced
    cases isChange
    exact segments
  have isThere : ∃ route ∈ preferredTable.routesTo ringNetwork,
      route.attributes.nextHop = some (.v4 ⟨11⟩) ∧ route.path = [3, 4] := by decide
  obtain ⟨known, isKnown, same⟩ := isThere
  exact ⟨walked, (produced _ _ _).mpr ⟨⟨_, by decide, produces⟩, by decide⟩,
    fun member => ((produced _ _ _).mp member).2 known isKnown same, once, attributes, announced,
    by decide, oneSequence, rfl⟩

end Router

end ContactPlan
