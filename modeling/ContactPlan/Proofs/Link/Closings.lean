import ContactPlan.Proofs.Link.Candidates
import ContactPlan.Proofs.Link.Order
import ContactPlan.Proofs.Route.Upkeep

namespace ContactPlan

/-- A route uses a contact when the two systems are neighbors on its way from the router. -/
def Route.Uses (route : Route) (own : Asn) (contact : Contact) : Prop :=
  contact.first.asn.NeighborsOn contact.second.asn (own :: route.path)

instance (route : Route) (own : Asn) (contact : Contact) : Decidable (route.Uses own contact) :=
  inferInstanceAs (Decidable (Asn.NeighborsOn _ _ _))

/-- A route uses a contact when its path from the router crosses it. -/
theorem Route.uses_iff {route : Route} {own : Asn} {contact : Contact} :
    route.Uses own contact ↔ contact.crossedBy own route.path :=
  contact.adjacentIn_iff_neighborsOn.symm

namespace Table

/-- The table keeps the routes that do not use a contact, and its next number. -/
def without (table : Table) (own : Asn) (contact : Contact) : Table :=
  { table with routes := table.routes.filter fun route => ¬route.Uses own contact }

/-- A table keeps the routes that do not use the contact and no others. -/
theorem mem_without {table : Table} {own : Asn} {contact : Contact} {route : Route} :
    route ∈ (table.without own contact).routes ↔
      route ∈ table.routes ∧ ¬route.Uses own contact := by
  simp [without]

/-- Of two contacts either may be taken out first. -/
theorem without_comm (table : Table) (own : Asn) (left right : Contact) :
    (table.without own left).without own right = (table.without own right).without own left := by
  unfold without
  rw [List.filter_comm]

/-- The routes to a network are kept in their order. -/
theorem routesTo_without (table : Table) (own : Asn) (contact : Contact) (network : Network) :
    (table.without own contact).routesTo network =
      (table.routesTo network).filter fun route => ¬route.Uses own contact :=
  List.filter_comm ..

/-- Every route uses the contact or is kept. -/
theorem size_without (table : Table) (own : Asn) (contact : Contact) :
    (table.without own contact).size +
      table.routes.countP (fun route => route.Uses own contact) = table.size := by
  have split := table.routes.length_eq_countP_add_countP fun route => route.Uses own contact
  simp only [size, without, ← List.countP_eq_length_filter]
  simp only [decide_eq_true_iff] at split
  omega

theorem without_of_unused {table : Table} {own : Asn} {contact : Contact}
    (unused : ∀ route ∈ table.routes, ¬route.Uses own contact) :
    table.without own contact = table := by
  unfold without
  rw [List.filter_eq_self.mpr]
  intro route member
  exact decide_eq_true (unused route member)

end Table

namespace Router

/-- A closing only withdraws, so that no route arrives by it. -/
theorem arrivals_closingsAlong (router : Router) (contact : Contact) (table : Table)
    (networks : List Network) :
    table.arrivals (router.closingsAlong contact table networks) = [] := by
  apply table.arrivals_withdrawals
  intro change member
  obtain ⟨route, -, -, rfl⟩ := withdraws_closingsAlong member
  exact ⟨_, _, rfl⟩

/-- A closing counts the routes that cross its contact. -/
theorem count_closingsAlong (router : Router) (contact : Contact) {table : Table}
    (numbered : table.Numbered) {networks : List Network}
    (listed : ∀ route ∈ table.routes, route.network ∈ networks) :
    (table.apply (router.closingsAlong contact table networks)).2 =
      table.routes.countP fun route => contact.crossedBy router.own route.path := by
  have remaining := router.routes_closingsAlong contact numbered.distinct listed
  obtain ⟨counted, balanced⟩ :=
    numbered.apply_balances (router.closingsAlong contact table networks)
  have split := table.routes.length_eq_countP_add_countP
    fun route => contact.crossedBy router.own route.path
  simp only [Bool.not_eq_true, Bool.decide_eq_false] at split
  have kept : (table.apply (router.closingsAlong contact table networks)).1.size =
      table.routes.countP fun route => !contact.crossedBy router.own route.path := by
    rw [Table.size, remaining, List.countP_eq_length_filter]
  rw [arrivals_closingsAlong, List.length_nil] at counted balanced
  simp only [Table.size] at balanced kept
  omega

/-- A closing gives out no number. -/
theorem nextId_closingsAlong (router : Router) (contact : Contact) (table : Table)
    (networks : List Network) :
    (table.apply (router.closingsAlong contact table networks)).1.nextId = table.nextId := by
  rw [table.nextId_apply, ← table.length_arrivals, arrivals_closingsAlong]
  rfl

/-- Without a route that crosses its contact a closing changes nothing. -/
theorem apply_closingsAlong_of_unused {router : Router} {contact : Contact} {table : Table}
    (unused : ∀ route ∈ table.routes, ¬contact.crossedBy router.own route.path)
    (networks : List Network) :
    table.apply (router.closingsAlong contact table networks) = (table, 0) := by
  have noChanges : router.closingsAlong contact table networks = [] := by
    apply List.eq_nil_iff_forall_not_mem.mpr
    intro change member
    obtain ⟨route, inTable, crosses, -⟩ := withdraws_closingsAlong member
    exact unused route inTable crosses
  rw [noChanges]
  rfl

/-- A walk through all networks collects one withdrawal for each route that uses the contact. -/
theorem length_closingsAlong (router : Router) (contact : Contact) {table : Table}
    {walk : List Network} (walked : walk.Perm table.networks) :
    (router.closingsAlong contact table walk).length =
      table.routes.countP fun route => route.Uses router.own contact := by
  have walkedRoutes : (walk.flatMap table.routesTo).Perm table.routes :=
    (walked.flatMap_right table.routesTo).trans table.perm_listing
  rw [← walkedRoutes.countP_eq, List.countP_flatMap, closingsAlong, List.length_flatMap]
  congr 2
  funext network
  rw [List.length_map, Function.comp_apply, List.countP_eq_length_filter]
  simp only [Route.uses_iff, Bool.decide_eq_true]

/-- A closing takes the routes that use its contact, and it counts them. -/
theorem handleAlong_closing (router : Router) (contact : Contact) {table : Table}
    (numbered : table.Numbered) {walk : List Network} (walked : walk.Perm table.networks) :
    router.handleAlong ⟨contact, .closing⟩ table walk =
      (table.without router.own contact,
        table.routes.countP fun route => route.Uses router.own contact) := by
  have listed (route : Route) (inTable : route ∈ table.routes) : route.network ∈ walk :=
    walked.mem_iff.mpr (Table.mem_networks.mpr ⟨route, inTable, rfl⟩)
  have kept := router.routes_closingsAlong contact numbered.distinct listed
  have counted := router.count_closingsAlong contact numbered listed
  have sameNext := router.nextId_closingsAlong contact table walk
  have crosses (route : Route) :
      contact.crossedBy router.own route.path = decide (route.Uses router.own contact) := by
    apply Bool.eq_iff_iff.mpr
    rw [decide_eq_true_iff, Route.uses_iff]
  simp only [crosses, ← decide_not] at kept counted
  change table.apply (router.closingsAlong contact table walk) = _
  apply Prod.ext
  · exact congrArg₂ Table.mk kept sameNext
  · exact counted

/-- A closing makes the table smaller by the number that it counts. -/
theorem size_handleAlong_closing (router : Router) (contact : Contact) {table : Table}
    (numbered : table.Numbered) {walk : List Network} (walked : walk.Perm table.networks) :
    (router.handleAlong ⟨contact, .closing⟩ table walk).1.size +
      (router.handleAlong ⟨contact, .closing⟩ table walk).2 = table.size := by
  rw [router.handleAlong_closing contact numbered walked]
  exact table.size_without router.own contact

/-- Where no route uses the contact any more, its closing does nothing. -/
theorem handleAlong_without (router : Router) (contact : Contact) (table : Table)
    (walk : List Network) :
    router.handleAlong ⟨contact, .closing⟩ (table.without router.own contact) walk =
      (table.without router.own contact, 0) := by
  apply apply_closingsAlong_of_unused
  intro route member
  rw [← Route.uses_iff]
  exact (Table.mem_without.mp member).2

/-- Two closings end in the same table and change as many routes in either order. -/
theorem handleAlong_closing_comm (router : Router) {left right : Contact} {table : Table}
    (numbered : table.Numbered) {leftWalk rightWalk leftLater rightLater : List Network}
    (leftWalked : leftWalk.Perm table.networks) (rightWalked : rightWalk.Perm table.networks) :
    let leftClosed := router.handleAlong ⟨left, .closing⟩ table leftWalk
    let rightClosed := router.handleAlong ⟨right, .closing⟩ table rightWalk
    leftLater.Perm rightClosed.1.networks → rightLater.Perm leftClosed.1.networks →
      let leftFirst := router.handleAlong ⟨right, .closing⟩ leftClosed.1 rightLater
      let rightFirst := router.handleAlong ⟨left, .closing⟩ rightClosed.1 leftLater
      leftFirst.1 = rightFirst.1 ∧ leftClosed.2 + leftFirst.2 = rightClosed.2 + rightFirst.2 := by
  intro leftClosed rightClosed leftFollows rightFollows leftFirst rightFirst
  have leftNumbered : leftClosed.1.Numbered := numbered.apply _
  have rightNumbered : rightClosed.1.Numbered := numbered.apply _
  have leftIs : leftClosed = (table.without router.own left, _) :=
    router.handleAlong_closing left numbered leftWalked
  have rightIs : rightClosed = (table.without router.own right, _) :=
    router.handleAlong_closing right numbered rightWalked
  have leftFirstIs : leftFirst = (leftClosed.1.without router.own right, _) :=
    router.handleAlong_closing right leftNumbered rightFollows
  have rightFirstIs : rightFirst = (rightClosed.1.without router.own left, _) :=
    router.handleAlong_closing left rightNumbered leftFollows
  have sameTable : leftFirst.1 = rightFirst.1 := by
    rw [leftFirstIs, rightFirstIs, leftIs, rightIs]
    exact table.without_comm router.own left right
  have leftSize : leftClosed.1.size + leftClosed.2 = table.size :=
    router.size_handleAlong_closing left numbered leftWalked
  have rightSize : rightClosed.1.size + rightClosed.2 = table.size :=
    router.size_handleAlong_closing right numbered rightWalked
  have leftFirstSize : leftFirst.1.size + leftFirst.2 = leftClosed.1.size :=
    router.size_handleAlong_closing right leftNumbered rightFollows
  have rightFirstSize : rightFirst.1.size + rightFirst.2 = rightClosed.1.size :=
    router.size_handleAlong_closing left rightNumbered leftFollows
  have sameSize : leftFirst.1.size = rightFirst.1.size := by rw [sameTable]
  constructor
  · exact sameTable
  · omega

/-- After any operations on an empty table a closing takes the routes that use its contact and no
others. Each of its withdrawals takes one route, and the lists of the networks follow.
The same closing changes nothing when it comes again. The closings of two contacts end in the same
table and change as many routes, whichever comes first. -/
theorem closing_takes_users (router : Router) (contact : Contact) (operations : List Operation) :
    let table := (Table.empty.performAll operations).1
    let filing := (Filing.empty.performAll operations).1
    let closing : Event := ⟨contact, .closing⟩
    ∀ walk : List Network, walk.Perm table.networks →
      let changes := router.changesAlong closing table walk
      let closed := router.handleAlong closing table walk
      (closed.1.routes = table.routes.filter (fun route => ¬route.Uses router.own contact) ∧
        closed.1.nextId = table.nextId) ∧
      (closed.2 = changes.length ∧ closed.1.size + closed.2 = table.size) ∧
      ((filing.apply changes).1.Files closed.1 ∧ (filing.apply changes).2 = closed.2) ∧
      (∀ again, router.handleAlong closing closed.1 again = (closed.1, 0)) ∧
      ∀ (other : Contact) (otherWalk : List Network), otherWalk.Perm table.networks →
        let otherClosing : Event := ⟨other, .closing⟩
        let otherClosed := router.handleAlong otherClosing table otherWalk
        ∀ later otherLater : List Network,
          later.Perm closed.1.networks → otherLater.Perm otherClosed.1.networks →
          let both := router.handleAlong otherClosing closed.1 later
          let otherBoth := router.handleAlong closing otherClosed.1 otherLater
          both.1 = otherBoth.1 ∧ closed.2 + both.2 = otherClosed.2 + otherBoth.2 := by
  intro table filing closing walk walked changes closed
  have numbered : table.Numbered := Table.numbered_performAll operations
  have files : filing.Files table := (Filing.Files.start.performAll operations).1
  have isClosed : closed = (table.without router.own contact, _) :=
    router.handleAlong_closing contact numbered walked
  have counted : closed.2 = changes.length := by
    rw [isClosed]
    exact (router.length_closingsAlong contact walked).symm
  have nothingLeft (again : List Network) :
      router.handleAlong closing closed.1 again = (closed.1, 0) := by
    rw [isClosed]
    exact router.handleAlong_without contact table again
  constructor
  · rw [isClosed]
    exact ⟨rfl, rfl⟩
  constructor
  · exact ⟨counted, router.size_handleAlong_closing contact numbered walked⟩
  constructor
  · exact files.apply changes
  constructor
  · exact nothingLeft
  · intro other otherWalk otherWalked otherClosing otherClosed later otherLater follows otherFollows
    exact router.handleAlong_closing_comm numbered walked otherWalked otherFollows follows

/-- The second route lies on two links, and the side has one of them on its only route. -/
def crossroads : List Operation :=
  [ringRoute 1 .configured [2, 4] none, ringRoute 2 .contact [2, 3, 4] none,
    ringRoute 3 .configured [4, 3] none, sideRoute 4 [2, 3]].map fun route =>
      .announce route.network route.attributes route.source

/-- Either closing takes the route on both links, and the side disappears with its route. -/
theorem closing_takes_users_crossroads :
    let table := (Table.empty.performAll crossroads).1
    let ringNetwork := (ringRoute 1 .configured [] none).network
    let closing : Event := ⟨ringContact ⟨2, ⟨12⟩⟩ ⟨3, ⟨13⟩⟩, .closing⟩
    let otherClosing : Event := ⟨ringContact ⟨4, ⟨14⟩⟩ ⟨3, ⟨23⟩⟩, .closing⟩
    let closed := ring.handleAlong closing table [(sideRoute 1 []).network, ringNetwork]
    let otherClosed := ring.handleAlong otherClosing table table.networks
    closed.1.routes.map Route.id = [1, 3] ∧ closed.2 = 2 ∧
      closed.1.networks = [ringNetwork] ∧ otherClosed.1.routes.map Route.id = [1, 4] ∧
      ring.handleAlong closing closed.1 [ringNetwork] = (closed.1, 0) ∧
      (ring.handleAlong otherClosing closed.1 [ringNetwork]).1 =
        (ring.handleAlong closing otherClosed.1 otherClosed.1.networks).1 := by
  intro table ringNetwork closing otherClosing closed otherClosed
  have walked : [(sideRoute 1 []).network, ringNetwork].Perm table.networks := by decide
  have oneIsLeft : closed.1.networks = [ringNetwork] := by decide
  obtain ⟨-, -, -, again, commute⟩ := ring.closing_takes_users closing.contact crossroads _ walked
  constructor
  · decide
  constructor
  · decide
  constructor
  · exact oneIsLeft
  constructor
  · decide
  constructor
  · exact again [ringNetwork]
  · apply And.left
    apply commute otherClosing.contact table.networks (.refl _)
    · exact .of_eq oneIsLeft.symm
    · exact .refl _

end Router

end ContactPlan
