import ContactPlan.Proofs.Link.Handling

/-
This file follows the table of a router while contacts open and close in any order.
No link is used that has been closed, and every hop and every end of a path comes from somewhere.
-/

namespace ContactPlan

/-- A link is down when a contact has closed it and none has opened it since then. -/
def Event.LinkDown (history : List Event) (left right : Asn) : Prop :=
  ∃ before contact after, history = before ++ ⟨contact, .closing⟩ :: after ∧
    contact.joins left right ∧
    ∀ later ∈ after, later.boundary = .opening → ¬later.contact.joins left right

/-- The last event has closed the link, or it was down and has not been opened. -/
theorem Event.LinkDown.of_append {history : List Event} {event : Event} {left right : Asn}
    (down : Event.LinkDown (history ++ [event]) left right) :
    (event.boundary = .closing ∧ event.contact.joins left right) ∨
      (Event.LinkDown history left right ∧
        (event.boundary = .opening → ¬event.contact.joins left right)) := by
  obtain ⟨before, contact, after, split, joins, notOpened⟩ := down
  rcases List.eq_nil_or_concat after with rfl | ⟨earlier, last, rfl⟩
  · obtain ⟨rfl, isEvent⟩ := List.append_inj' split rfl
    cases isEvent
    exact .inl ⟨rfl, joins⟩
  · rw [List.concat_eq_append, ← List.cons_append, ← List.append_assoc] at split
    rw [List.concat_eq_append] at notOpened
    obtain ⟨rfl, isEvent⟩ := List.append_inj' split rfl
    cases isEvent
    refine .inr ⟨⟨before, contact, earlier, rfl, joins, ?_⟩, ?_⟩
    · exact fun later member => notOpened later (List.mem_append_left _ member)
    · exact notOpened event (List.mem_append_right _ List.mem_cons_self)

/-- A link is down from either side. -/
theorem Event.LinkDown.symm {history : List Event} {left right : Asn}
    (down : Event.LinkDown history left right) : Event.LinkDown history right left := by
  obtain ⟨before, contact, after, split, joins, notOpened⟩ := down
  refine ⟨before, contact, after, split, contact.joins_comm left right ▸ joins, ?_⟩
  intro later member opens
  rw [later.contact.joins_comm]
  exact notOpened later member opens

namespace Router

/-- Events are handled one after the other, and for each of them the networks are walked in any
order. -/
inductive Run (router : Router) (initial : Table) : List Event → Table → Prop where
  | start : Run router initial [] initial
  | handle {history : List Event} {table : Table} (run : Run router initial history table)
      (event : Event) (networks : List Network) (walked : networks.Perm table.networks) :
      Run router initial (history ++ [event])
        (table.apply (router.changesAlong event table networks)).1

/-- An event may be handled in the order of the networks. -/
theorem Run.handled {router : Router} {initial table : Table} {history : List Event}
    (run : router.Run initial history table) (event : Event) :
    router.Run initial (history ++ [event]) (router.handle event table).1 :=
  run.handle event table.networks (.refl _)

/-- One event keeps a route that does not cross what it closes, or adds one that it offers. -/
theorem mem_routes_changesAlong {router : Router} {event : Event} {table : Table}
    {networks : List Network} (walked : networks.Perm table.networks) {route : Route}
    (member : route ∈ (table.apply (router.changesAlong event table networks)).1.routes) :
    (route ∈ table.routes ∧
        (event.boundary = .closing → ¬event.contact.crossedBy router.own route.path)) ∨
      (event.boundary = .opening ∧ route.source = .contact ∧
        route.attributes ∈ router.offers event.contact (table.routesTo route.network)) := by
  obtain ⟨contact, boundary⟩ := event
  cases boundary with
  | opening =>
      obtain ⟨added, routes, areOffered⟩ := router.routes_openingsAlong contact table networks
      change route ∈ (table.apply (router.openingsAlong contact table networks)).1.routes at member
      rw [routes] at member
      rcases List.mem_append.mp member with old | new
      · exact .inl ⟨old, fun isClosing => by cases isClosing⟩
      · exact .inr ⟨rfl, areOffered route new⟩
  | closing =>
      have listed (route : Route) (inTable : route ∈ table.routes) : route.network ∈ networks :=
        walked.mem_iff.mpr (Table.mem_networks.mpr ⟨route, inTable, rfl⟩)
      obtain ⟨old, notCrossing⟩ := mem_routes_closingsAlong listed member
      exact .inl ⟨old, fun _ => notCrossing⟩

/-- The routes to a network are routes of the table. -/
theorem mem_routesTo {table : Table} {network : Network} {route : Route}
    (member : route ∈ table.routesTo network) : route ∈ table.routes ∧ route.network = network := by
  obtain ⟨inTable, isTo⟩ := List.mem_filter.mp member
  exact ⟨inTable, of_decide_eq_true isTo⟩

/-- A hop of an offered path is one of the routes to the network or crosses the contact. -/
theorem hopsTo_of_mem_offers {router : Router} {contact : Contact} {routes : List Route}
    {attributes : Attributes} (member : attributes ∈ router.offers contact routes)
    {first second : Asn} (hops : first.HopsTo second (router.own :: attributes.path)) :
    (∃ route ∈ routes, first.HopsTo second (router.own :: route.path)) ∨
      contact.joins first second := by
  obtain ⟨route, isRoute, other, isOther, spliced⟩ := spliced_of_mem_offers member
  rcases spliced.hopsTo hops with inRoute | inOther | joins
  · exact .inl ⟨route, isRoute, inRoute⟩
  · exact .inl ⟨other, isOther, List.infix_cons inOther⟩
  · exact .inr joins

/-- A link that is down has no hops, since only its own contacts could splice new ones. -/
theorem Run.not_hopsTo_of_linkDown {router : Router} {initial table : Table}
    {history : List Event} (run : router.Run initial history table) {first second : Asn}
    (down : Event.LinkDown history first second) :
    ∀ route ∈ table.routes, ¬first.HopsTo second (router.own :: route.path) := by
  induction run with
  | start =>
      obtain ⟨before, contact, after, split, -⟩ := down
      cases before <;> cases split
  | @handle history table run event networks walked inductionHypothesis =>
      intro route member hops
      rcases down.of_append with ⟨closes, joins⟩ | ⟨wasDown, notOpened⟩
      · rcases mem_routes_changesAlong walked member with ⟨-, notCrossing⟩ | ⟨opens, -⟩
        · exact notCrossing closes (Contact.adjacentIn_iff.mpr ⟨first, second, joins, hops⟩)
        · cases opens.symm.trans closes
      · rcases mem_routes_changesAlong walked member with ⟨old, -⟩ | ⟨opens, -, offered⟩
        · exact inductionHypothesis wasDown route old hops
        · rcases hopsTo_of_mem_offers offered hops with ⟨other, isOther, onOther⟩ | joins
          · exact inductionHypothesis wasDown other (mem_routesTo isOther).1 onOther
          · exact notOpened opens joins

/-- After a contact has closed a link, no route to any network has its two systems next to each
other until a contact opens the link again, whatever other contacts do in the meantime. -/
theorem Run.closed_link_unused {router : Router} {initial table : Table} {history : List Event}
    (run : router.Run initial history table) {left right : Asn}
    (down : Event.LinkDown history left right) :
    ∀ route ∈ table.routes, ¬left.NeighborsOn right (router.own :: route.path) := by
  intro route member neighbors
  rcases neighbors with forth | back
  · exact run.not_hopsTo_of_linkDown down route member forth
  · exact run.not_hopsTo_of_linkDown down.symm route member back

/-- All routes of the ring lead to one network. -/
def ringRoute (id : Nat) (source : Source) (path : List Asn) (nextHop : Option Address) : Route :=
  { id
    network := ⟨.v4 ⟨0⟩, 16, by decide⟩
    source
    attributes :=
      { nextHop
        origin := .interior
        segments := Segment.ofPath path
        localPreference := none
        discriminator := none } }

def ring : Router := ⟨1, Neighbor.resolver [⟨⟨11⟩, "radio"⟩]⟩

/-- The first static route uses the link that closes. -/
def ringTable : Table :=
  ⟨[ringRoute 1 .configured [2, 4] none, ringRoute 2 .configured [5, 6] none,
    ringRoute 3 .configured [2, 3, 4] none], 4⟩

def ringContact (first second : Endpoint) : Contact :=
  { start := 1000
    duration := 9000
    first
    second }

/-- After the link has closed, the router opens a contact of its own and two others meet. -/
def ringHistory : List Event :=
  [⟨ringContact ⟨4, ⟨14⟩⟩ ⟨2, ⟨12⟩⟩, .closing⟩, ⟨ringContact ⟨1, ⟨11⟩⟩ ⟨3, ⟨13⟩⟩, .opening⟩,
    ⟨ringContact ⟨3, ⟨23⟩⟩ ⟨6, ⟨16⟩⟩, .opening⟩]

/-- This route is spliced from one that was spliced before. -/
def ringSplice : Route := ringRoute 6 .contact [3, 6] (some (.v4 ⟨11⟩))

/-- A route over the new link is there when all events have been handled. -/
theorem run_ringHistory : ∃ table, ring.Run ringTable ringHistory table ∧
    ringSplice ∈ table.routes := by
  have started : ring.Run ringTable [] ringTable := .start
  have closed := started.handled ⟨ringContact ⟨4, ⟨14⟩⟩ ⟨2, ⟨12⟩⟩, .closing⟩
  have linked := closed.handled ⟨ringContact ⟨1, ⟨11⟩⟩ ⟨3, ⟨13⟩⟩, .opening⟩
  have met := linked.handled ⟨ringContact ⟨3, ⟨23⟩⟩ ⟨6, ⟨16⟩⟩, .opening⟩
  exact ⟨_, met, by decide⟩

/-- The splices of other contacts do not bring the link back, which a static route used. -/
theorem Run.closed_link_unused_ring : ∃ table, ring.Run ringTable ringHistory table ∧
    Event.LinkDown ringHistory 2 4 ∧ ringSplice ∈ table.routes ∧
    (∃ route ∈ ringTable.routes, Asn.NeighborsOn 2 4 (ring.own :: route.path)) ∧
    ¬Asn.NeighborsOn 2 4 (ring.own :: ringSplice.path) := by
  obtain ⟨table, run, member⟩ := run_ringHistory
  have down : Event.LinkDown ringHistory 2 4 := ⟨[], _, _, rfl, by decide, by decide⟩
  have used : Asn.NeighborsOn 2 4 [1, 2, 4] := .inl ⟨[1], [], rfl⟩
  exact ⟨table, run, down, member, ⟨_, List.mem_cons_self, used⟩,
    run.closed_link_unused down ringSplice member⟩

/-- A route derives from the initial ones when one of them leads to its network and ends in its
origin, and when each of its hops is one of theirs or crosses a contact that has opened. -/
structure Derives (router : Router) (initial : Table) (history : List Event) (route : Route) :
    Prop where
  origin : ∃ first ∈ initial.routes, first.network = route.network ∧
    first.path.getLast? = route.path.getLast?
  created : route ∈ initial.routes ∨ route.source = .contact ∧ route.path ≠ []
  hops : ∀ left right, left.HopsTo right (router.own :: route.path) →
    (∃ first ∈ initial.routes, first.network = route.network ∧
      left.HopsTo right (router.own :: first.path)) ∨
    ∃ event ∈ history, event.boundary = .opening ∧ event.contact.joins left right

/-- An initial route comes from itself. -/
theorem derives_initial (router : Router) {initial : Table} (history : List Event) {route : Route}
    (member : route ∈ initial.routes) : router.Derives initial history route :=
  ⟨⟨route, member, rfl, rfl⟩, .inl member, fun _ _ hops => .inl ⟨route, member, rfl, hops⟩⟩

theorem Derives.append {router : Router} {initial : Table} {history : List Event} {route : Route}
    (derives : router.Derives initial history route) (event : Event) :
    router.Derives initial (history ++ [event]) route := by
  refine ⟨derives.origin, derives.created, ?_⟩
  intro left right hops
  rcases derives.hops left right hops with fromInitial | ⟨opened, isEarlier, opens⟩
  · exact .inl fromInitial
  · exact .inr ⟨opened, List.mem_append_left _ isEarlier, opens⟩

/-- What an opening offers derives from the initial routes if the routes to the network do. -/
theorem derives_of_mem_offers {router : Router} {initial table : Table} {history : List Event}
    (derive : ∀ route ∈ table.routes, router.Derives initial history route) {event : Event}
    (opens : event.boundary = .opening) {route : Route} (isContact : route.source = .contact)
    (offered : route.attributes ∈ router.offers event.contact (table.routesTo route.network)) :
    router.Derives initial (history ++ [event]) route := by
  have deriveTo {other : Route} (isOther : other ∈ table.routesTo route.network) :
      router.Derives initial history other ∧ other.network = route.network :=
    ⟨derive other (mem_routesTo isOther).1, (mem_routesTo isOther).2⟩
  obtain ⟨source, isSource, other, isOther, spliced⟩ := spliced_of_mem_offers offered
  obtain ⟨nonempty, sameEnd⟩ := spliced.getLast?_eq
  refine ⟨?_, .inr ⟨isContact, nonempty⟩, ?_⟩
  · obtain ⟨derives, sameNetwork⟩ := deriveTo isOther
    obtain ⟨first, isFirst, firstNetwork, firstEnd⟩ := derives.origin
    exact ⟨first, isFirst, firstNetwork.trans sameNetwork, firstEnd.trans sameEnd.symm⟩
  · intro left right hops
    rcases hopsTo_of_mem_offers offered hops with ⟨third, isThird, onThird⟩ | joins
    · obtain ⟨derives, sameNetwork⟩ := deriveTo isThird
      have known := (derives.append event).hops left right onThird
      rwa [sameNetwork] at known
    · exact .inr ⟨event, List.mem_append_right _ List.mem_cons_self, opens, joins⟩

/-- In every run all routes derive from the initial ones, so that no link and no origin is made
up. -/
theorem Run.routes_derive {router : Router} {initial table : Table} {history : List Event}
    (run : router.Run initial history table) :
    ∀ route ∈ table.routes, router.Derives initial history route := by
  induction run with
  | start => exact fun route member => router.derives_initial [] member
  | @handle history table run event networks walked inductionHypothesis =>
      intro route member
      rcases mem_routes_changesAlong walked member with ⟨old, -⟩ | ⟨opens, isContact, offered⟩
      · exact (inductionHypothesis route old).append event
      · exact derives_of_mem_offers inductionHypothesis opens isContact offered

/-- A route that was spliced twice derives from the static routes and two contacts. -/
theorem Run.routes_derive_ring : ∃ table, ring.Run ringTable ringHistory table ∧
    ringSplice ∈ table.routes ∧ ring.Derives ringTable ringHistory ringSplice := by
  obtain ⟨table, run, member⟩ := run_ringHistory
  exact ⟨table, run, member, run.routes_derive ringSplice member⟩

end Router

end ContactPlan
