import ContactPlan.Proofs.Link.Run
import ContactPlan.Proofs.Route.Contents

namespace ContactPlan

namespace Router

/-- An offer does not disappear when there are more routes. -/
theorem offers_subset {router : Router} {contact : Contact} {routes more : List Route}
    (included : routes ⊆ more) : router.offers contact routes ⊆ router.offers contact more := by
  intro attributes member
  obtain ⟨route, isRoute, other, isOther, extend⟩ := mem_offers.mp member
  exact mem_offers.mpr ⟨route, included isRoute, other, included isOther, extend⟩

/-- The numbers of routes only serve to leave out the route that is extended. -/
theorem offers_renumbered (router : Router) (contact : Contact) {left right : List Route}
    (renumbered : Route.Renumbered left right) :
    router.offers contact right = router.offers contact left := by
  obtain ⟨numbers, rfl, apart⟩ := renumbered
  unfold offers
  rw [List.flatMap_map]
  apply List.flatMap_congr
  intro route isRoute
  have sameOthers :
      ((left.map (Route.renumber numbers)).filter fun other =>
          other.id ≠ (route.renumber numbers).id).map Route.path =
        (left.filter fun other => other.id ≠ route.id).map Route.path := by
    rw [List.filter_map, List.map_map]
    congr 1
    apply List.filter_congr
    intro other isOther
    apply decide_eq_decide.mpr
    exact not_congr ⟨apart other isOther route isRoute, congrArg numbers⟩
  unfold candidates
  rw [sameOthers]
  rfl

/-- What is offered does not depend on the order of the routes. -/
theorem mem_offers_shuffled {router : Router} {contact : Contact} {left right : List Route}
    (shuffled : Route.Shuffled left right) {attributes : Attributes} :
    attributes ∈ router.offers contact left ↔ attributes ∈ router.offers contact right := by
  obtain ⟨middle, renumbered, permuted⟩ := shuffled
  rw [← router.offers_renumbered contact renumbered]
  constructor
  · exact fun member => offers_subset permuted.subset member
  · exact fun member => offers_subset permuted.symm.subset member

end Router

/-- What an announcement is known by. -/
def Attributes.triple (attributes : Attributes) (network : Network) :
    Network × Option Address × List Asn := (network, attributes.nextHop, attributes.path)

/-- What tells whether two routes lead the same way to the same network. -/
def Route.triple (route : Route) : Network × Option Address × List Asn :=
  route.attributes.triple route.network

/-- The triples of routes do not depend on their numbers. -/
theorem Route.Renumbered.triples_eq {left right : List Route}
    (renumbered : Route.Renumbered left right) :
    left.map Route.triple = right.map Route.triple := by
  obtain ⟨numbers, rfl, -⟩ := renumbered
  rw [List.map_map]
  rfl

/-- Shuffled routes have the same triples in another order. -/
theorem Route.Shuffled.perm_triples {left right : List Route}
    (shuffled : Route.Shuffled left right) :
    (left.map Route.triple).Perm (right.map Route.triple) := by
  obtain ⟨middle, renumbered, permuted⟩ := shuffled
  rw [renumbered.triples_eq]
  exact permuted.map Route.triple

def RouteChange.triple? : RouteChange → Option (Network × Option Address × List Asn)
  | .announce network attributes _ => some (attributes.triple network)
  | .withdraw _ _ => none

/-- Alike offers for one network have one triple. -/
theorem Attributes.triple_eq_iff {left right : Attributes} {network other : Network} :
    left.triple network = right.triple other ↔ network = other ∧ left.Alike right := by
  simp only [triple, Prod.mk.injEq, Alike]

/-- Attributes are new when neither a route nor a pending announcement has their triple. -/
theorem Attributes.isNew_iff {attributes : Attributes} {network : Network} {routes : List Route}
    {pending : List RouteChange} : attributes.isNew network routes pending ↔
      attributes.triple network ∉ routes.map Route.triple ∧
        attributes.triple network ∉ pending.filterMap RouteChange.triple? := by
  have knownRoute : (routes.any fun route =>
      route.network = network && route.attributes.Alike attributes) ↔
        attributes.triple network ∈ routes.map Route.triple := by
    simp [Route.triple, triple_eq_iff]
  have isPending : pending.any (RouteChange.announcesAlike network attributes) ↔
      attributes.triple network ∈ pending.filterMap RouteChange.triple? := by
    rw [List.any_eq_true, List.mem_filterMap]
    apply exists_congr
    intro change
    cases change <;>
      simp [RouteChange.announcesAlike, RouteChange.triple?, triple_eq_iff]
  rw [← knownRoute, ← isPending]
  simp [isNew]

/-- The triple of an announcement has its network. -/
theorem RouteChange.network_of_triple? {change : RouteChange}
    {triple : Network × Option Address × List Asn} (announces : change.triple? = some triple) :
    change.network = triple.1 := by
  cases change <;> cases announces
  rfl

/-- A triple is found among the changes for its own network. -/
theorem RouteChange.mem_triples_filter {changes : List RouteChange} {network : Network}
    {triple : Network × Option Address × List Asn} (own : triple.1 = network) :
    triple ∈ (changes.filter fun change => change.network = network).filterMap triple? ↔
      triple ∈ changes.filterMap triple? := by
  rw [List.mem_filterMap, List.mem_filterMap]
  apply exists_congr
  intro change
  rw [List.mem_filter, decide_eq_true_iff]
  constructor
  · rintro ⟨⟨member, -⟩, announces⟩
    exact ⟨member, announces⟩
  · rintro ⟨member, announces⟩
    exact ⟨⟨member, (network_of_triple? announces).trans own⟩, announces⟩

/-- What is pending for other networks does not make a difference. -/
theorem Attributes.isNew_filter (attributes : Attributes) (network : Network)
    (routes : List Route) (pending : List RouteChange) :
    attributes.isNew network routes (pending.filter fun change => change.network = network) =
      attributes.isNew network routes pending := by
  have own : (attributes.triple network).1 = network := rfl
  apply Bool.eq_iff_iff.mpr
  rw [isNew_iff, isNew_iff, RouteChange.mem_triples_filter own]

namespace Router

/-- The offers for one network are announced one after the other unless they are known. -/
def announceNew (network : Network) (routes : List Route) (offered : List Attributes)
    (pending : List RouteChange) : List RouteChange :=
  offered.foldl (fun pending attributes => attributes.announceIfNew network routes pending) pending

/-- An opening concerns a network through its own routes only. -/
def openingsTo (router : Router) (contact : Contact) (network : Network) (routes : List Route) :
    List RouteChange :=
  announceNew network routes (router.offers contact routes) []

/-- A triple is added to what is pending if it is offered and no route has it. -/
theorem mem_announceNew {network : Network} {routes : List Route} {offered : List Attributes}
    {pending : List RouteChange} {triple : Network × Option Address × List Asn} :
    triple ∈ (announceNew network routes offered pending).filterMap RouteChange.triple? ↔
      triple ∈ pending.filterMap RouteChange.triple? ∨
        triple ∈ offered.map (Attributes.triple · network) ∧ triple ∉ routes.map Route.triple := by
  induction offered generalizing pending with
  | nil => simp [announceNew]
  | cons attributes rest inductionHypothesis =>
      have later := @inductionHypothesis (attributes.announceIfNew network routes pending)
      change triple ∈ (announceNew network routes rest _).filterMap RouteChange.triple? ↔ _
      rw [later, List.map_cons, List.mem_cons]
      unfold Attributes.announceIfNew
      by_cases isNew : attributes.isNew network routes pending
      · have notKnown := (Attributes.isNew_iff.mp isNew).1
        rw [if_pos isNew, List.filterMap_append, List.mem_append]
        by_cases isTriple : triple = attributes.triple network
        · simp [isTriple, notKnown, RouteChange.triple?]
        · simp [isTriple, RouteChange.triple?]
      · have known := mt Attributes.isNew_iff.mpr isNew
        rw [if_neg isNew]
        by_cases isTriple : triple = attributes.triple network
        · rw [isTriple]
          tauto
        · simp [isTriple]

/-- The changes for a network are those that its own offers ask for. -/
theorem filter_announceNew (network other : Network) (routes : List Route)
    (offered : List Attributes) (pending : List RouteChange) :
    (announceNew other routes offered pending).filter (fun change => change.network = network) =
      if other = network then
        announceNew network routes offered
          (pending.filter fun change => change.network = network)
      else pending.filter fun change => change.network = network := by
  induction offered generalizing pending with
  | nil => simp [announceNew]
  | cons attributes rest inductionHypothesis =>
      refine (inductionHypothesis (attributes.announceIfNew other routes pending)).trans ?_
      by_cases isSame : other = network
      · rw [if_pos isSame, if_pos isSame, isSame]
        change _ = announceNew network routes rest
          (attributes.announceIfNew network routes
            (pending.filter fun change => change.network = network))
        congr 1
        unfold Attributes.announceIfNew
        rw [Attributes.isNew_filter]
        split <;> simp [RouteChange.network]
      · rw [if_neg isSame, if_neg isSame]
        unfold Attributes.announceIfNew
        split <;> simp [RouteChange.network, isSame]

/-- A walk that does not come to a network announces nothing for it. -/
theorem filter_walk_of_notMem {router : Router} {contact : Contact} {table : Table}
    {network : Network} {walk : List Network} (absent : network ∉ walk)
    (pending : List RouteChange) :
    (walk.foldl (fun pending network => announceNew network (table.routesTo network)
        (router.offers contact (table.routesTo network)) pending) pending).filter
          (fun change => change.network = network) =
      pending.filter fun change => change.network = network := by
  induction walk generalizing pending with
  | nil => rfl
  | cons head rest inductionHypothesis =>
      obtain ⟨notHead, notRest⟩ := List.ne_and_not_mem_of_not_mem_cons absent
      rw [List.foldl_cons, inductionHypothesis notRest, filter_announceNew,
        if_neg (Ne.symm notHead)]

/-- In every walk a network gets what its own routes ask for. -/
theorem filter_openingsAlong (router : Router) (contact : Contact) {table : Table}
    {walk : List Network} (walked : walk.Perm table.networks) (network : Network) :
    (router.openingsAlong contact table walk).filter (fun change => change.network = network) =
      router.openingsTo contact network (table.routesTo network) := by
  by_cases isWalked : network ∈ walk
  · obtain ⟨before, after, rfl⟩ := List.append_of_mem isWalked
    have once : (before ++ network :: after).Nodup := walked.nodup_iff.mpr table.nodup_networks
    obtain ⟨-, once, apart⟩ := List.nodup_append.mp once
    have notBefore : network ∉ before :=
      fun member => apart network member network List.mem_cons_self rfl
    have notAfter : network ∉ after := (List.nodup_cons.mp once).1
    change ((before ++ network :: after).foldl (fun pending network =>
      announceNew network (table.routesTo network)
        (router.offers contact (table.routesTo network)) pending) []).filter _ = _
    rw [List.foldl_append, List.foldl_cons, filter_walk_of_notMem notAfter, filter_announceNew,
      if_pos rfl, filter_walk_of_notMem notBefore]
    rfl
  · have noRoutes : table.routesTo network = [] :=
      Table.routesTo_eq_nil (mt walked.mem_iff.mpr isWalked)
    rw [noRoutes]
    exact filter_walk_of_notMem isWalked []

/-- A triple is announced for a network when its routes offer it and none of them has it. -/
theorem mem_openingsAlong {router : Router} {contact : Contact} {table : Table}
    {walk : List Network} (walked : walk.Perm table.networks) {network : Network}
    {nextHop : Option Address} {path : List Asn} :
    (network, nextHop, path) ∈
        (router.openingsAlong contact table walk).filterMap RouteChange.triple? ↔
      (network, nextHop, path) ∈
          (router.offers contact (table.routesTo network)).map (Attributes.triple · network) ∧
        (network, nextHop, path) ∉ (table.routesTo network).map Route.triple := by
  have own : (network, nextHop, path) ∈
        (router.openingsTo contact network (table.routesTo network)).filterMap
          RouteChange.triple? ↔ _ := mem_announceNew
  rw [List.filterMap_nil, or_iff_right List.not_mem_nil] at own
  rw [← own, ← filter_openingsAlong router contact walked]
  exact (RouteChange.mem_triples_filter rfl).symm

/-- The numbers of the routes do not matter for what is announced. -/
theorem openingsTo_renumbered (router : Router) (contact : Contact) (network : Network)
    {left right : List Route} (renumbered : Route.Renumbered left right) :
    router.openingsTo contact network left = router.openingsTo contact network right := by
  have sameNew (attributes : Attributes) (pending : List RouteChange) :
      attributes.announceIfNew network left pending =
        attributes.announceIfNew network right pending := by
    unfold Attributes.announceIfNew
    simp only [Attributes.isNew_iff, renumbered.triples_eq]
  unfold openingsTo announceNew
  simp only [sameNew, router.offers_renumbered contact renumbered]

/-- An opening announces and does not withdraw. -/
theorem isSome_content?_openingsAlong (router : Router) (contact : Contact) (table : Table)
    (walk : List Network) :
    ∀ change ∈ router.openingsAlong contact table walk, change.content?.isSome := by
  intro change member
  obtain ⟨network, attributes, source, rfl, -⟩ :=
    router.opens_openingsAlong contact table walk change member
  rfl

/-- An opening announces the same triples for a network when the routes to it are shuffled. When
they keep their order, its changes are the same, and so are the routes that result in their order.
No other network and no order of the walk makes a difference. -/
theorem openingsAlong_independent (router : Router) (contact : Contact) {left right : Table}
    {leftWalk rightWalk : List Network} (leftWalked : leftWalk.Perm left.networks)
    (rightWalked : rightWalk.Perm right.networks) (network : Network) :
    (Route.Shuffled (left.routesTo network) (right.routesTo network) → ∀ nextHop path,
      (network, nextHop, path) ∈
          (router.openingsAlong contact left leftWalk).filterMap RouteChange.triple? ↔
        (network, nextHop, path) ∈
          (router.openingsAlong contact right rightWalk).filterMap RouteChange.triple?) ∧
    (Route.Renumbered (left.routesTo network) (right.routesTo network) →
      (router.openingsAlong contact left leftWalk).filter (fun change => change.network = network) =
        (router.openingsAlong contact right rightWalk).filter
          (fun change => change.network = network) ∧
      ((left.apply (router.openingsAlong contact left leftWalk)).1.routesTo network).map
          Route.content =
        ((right.apply (router.openingsAlong contact right rightWalk)).1.routesTo network).map
          Route.content) := by
  constructor
  · intro shuffled nextHop path
    rw [mem_openingsAlong leftWalked, mem_openingsAlong rightWalked,
      shuffled.perm_triples.mem_iff]
    simp only [List.mem_map, mem_offers_shuffled shuffled]
  · intro renumbered
    have sameChanges : (router.openingsAlong contact left leftWalk).filter
          (fun change => change.network = network) =
        (router.openingsAlong contact right rightWalk).filter
          (fun change => change.network = network) := by
      rw [filter_openingsAlong router contact leftWalked,
        filter_openingsAlong router contact rightWalked]
      exact router.openingsTo_renumbered contact network renumbered
    refine ⟨sameChanges, ?_⟩
    rw [left.contents_apply_announcements network (router.isSome_content?_openingsAlong _ _ _),
      right.contents_apply_announcements network (router.isSome_content?_openingsAlong _ _ _),
      renumbered.contents_eq, sameChanges]

/-- Routes to another network than that of the ring. -/
def sideRoute (id : Nat) (path : List Asn) : Route :=
  { ringRoute id .configured path none with network := ⟨.v4 ⟨0⟩, 24, by decide⟩ }

/-- The routes to a network lend each other their tails. -/
def tailsTable : Table :=
  ⟨[ringRoute 1 .configured [2, 4] none, ringRoute 2 .configured [2, 3, 4] none,
    ringRoute 3 .configured [5, 3, 6] none, sideRoute 4 [2, 4], sideRoute 5 [5, 3, 6]], 6⟩

/-- The routes to the ring stand in another order than before, and those to the side do not. -/
def shuffledTable : Table :=
  ⟨[sideRoute 1 [2, 4], ringRoute 2 .configured [2, 3, 4] none, sideRoute 3 [5, 3, 6],
    ringRoute 4 .configured [5, 3, 6] none, ringRoute 5 .configured [2, 4] none], 6⟩

/-- The shuffled table is walked the other way round. It has its triples announced in another
order, but all of them, and the changes for the side are the same. -/
theorem openingsAlong_independent_shuffled :
    let contact := ringContact ⟨1, ⟨11⟩⟩ ⟨3, ⟨13⟩⟩
    let ringNetwork := (ringRoute 1 .configured [] none).network
    let sideNetwork := (sideRoute 1 []).network
    let changes := ring.openingsAlong contact tailsTable [sideNetwork, ringNetwork]
    let shuffled := ring.openingsAlong contact shuffledTable [ringNetwork, sideNetwork]
    changes.filterMap RouteChange.triple? ≠ shuffled.filterMap RouteChange.triple? ∧
      (ringNetwork, some (.v4 ⟨11⟩), [3, 4]) ∈ shuffled.filterMap RouteChange.triple? ∧
      (ringNetwork, some (.v4 ⟨11⟩), [3, 6]) ∈ shuffled.filterMap RouteChange.triple? ∧
      shuffled.filter (fun change => change.network = sideNetwork) =
        changes.filter fun change => change.network = sideNetwork := by
  have walked : [(sideRoute 1 []).network, (ringRoute 1 .configured [] none).network].Perm
      tailsTable.networks := by decide
  have walkedBack : [(ringRoute 1 .configured [] none).network, (sideRoute 1 []).network].Perm
      shuffledTable.networks := by decide
  have independent :=
    ring.openingsAlong_independent (ringContact ⟨1, ⟨11⟩⟩ ⟨3, ⟨13⟩⟩) walked walkedBack
  have ringTriples := (independent (ringRoute 1 .configured [] none).network).1
    (Route.shuffled_of_contents (by decide) (by decide) (by decide))
  have sideChanges := (independent (sideRoute 1 []).network).2
    (Route.renumbered_of_contents (by decide) (by decide) (by decide))
  refine ⟨by decide, ?_, ?_, sideChanges.1.symm⟩
  · exact (ringTriples _ _).mp (by decide)
  · exact (ringTriples _ _).mp (by decide)

end Router

end ContactPlan
