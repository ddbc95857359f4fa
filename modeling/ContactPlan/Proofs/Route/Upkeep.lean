import ContactPlan.Proofs.Route.Filing

namespace ContactPlan

/-- An operation goes through changes one by one. -/
def Operation.changes : Operation → List RouteChange
  | .announce network attributes source => [.announce network attributes source]
  | .configure network attributes => [.announce network attributes .configured]
  | .withdraw network id => [.withdraw network id]
  | .apply changes => changes

/-- How many routes some operations announce. -/
def Operation.announcements (operations : List Operation) : Nat :=
  (operations.flatMap Operation.changes).countP RouteChange.announces

namespace Table

/-- The routes stand in the order of their numbers, and the next number is new. -/
structure Ordered (table : Table) : Prop where
  ascending : table.routes.Pairwise fun left right => left.id < right.id
  below : ∀ route ∈ table.routes, route.id < table.nextId

theorem ordered_empty : Ordered Table.empty :=
  ⟨List.Pairwise.nil, by simp [Table.empty]⟩

/-- A table in order is numbered. -/
theorem Ordered.numbered {table : Table} (ordered : table.Ordered) : table.Numbered := by
  constructor
  · rw [List.Nodup, List.pairwise_map]
    exact ordered.ascending.imp Nat.ne_of_lt
  · exact ordered.below

/-- An announced route has the greatest number. -/
theorem Ordered.announce {table : Table} (ordered : table.Ordered) (network : Network)
    (attributes : Attributes) (source : Source) :
    (table.announce network attributes source).Ordered := by
  constructor
  · change (table.routes ++ [_]).Pairwise _
    rw [List.pairwise_append]
    simp only [List.pairwise_singleton, List.mem_singleton, forall_eq, true_and]
    exact ⟨ordered.ascending, ordered.below⟩
  · exact (ordered.numbered.announce network attributes source).below

/-- The routes that stay keep their order. -/
theorem Ordered.withdraw {table : Table} (ordered : table.Ordered) (network : Network) (id : Nat) :
    (table.withdraw network id).Ordered :=
  ⟨ordered.ascending.filter _, (ordered.numbered.withdraw network id).below⟩

/-- Changes keep a table in order. -/
theorem Ordered.apply {table : Table} (ordered : table.Ordered) (changes : List RouteChange) :
    (table.apply changes).1.Ordered := by
  induction changes generalizing table with
  | nil => exact ordered
  | cons change rest inductionHypothesis =>
      rw [apply_cons]
      apply inductionHypothesis
      cases change with
      | announce network attributes source => exact ordered.announce network attributes source
      | withdraw network id => exact ordered.withdraw network id

/-- An operation is its changes. -/
theorem perform_eq_apply (table : Table) (operation : Operation) :
    (table.perform operation).1 = (table.apply operation.changes).1 := by
  cases operation <;> rfl

/-- Operations make their changes one after the other. -/
theorem performAll_eq_apply (table : Table) (operations : List Operation) :
    (table.performAll operations).1 =
      (table.apply (operations.flatMap Operation.changes)).1 := by
  induction operations generalizing table with
  | nil => rfl
  | cons operation rest inductionHypothesis =>
      rw [List.flatMap_cons, apply_append, ← perform_eq_apply, ← inductionHypothesis]
      rfl

/-- A table is numbered when operations have made it of the empty one. -/
theorem numbered_performAll (operations : List Operation) :
    (Table.empty.performAll operations).1.Numbered := by
  rw [performAll_eq_apply]
  exact numbered_empty.apply _

/-- Different networks contribute different routes to a listing. -/
theorem perm_flatMap_routesTo (table : Table) {networks : List Network}
    (distinct : networks.Nodup) :
    (networks.flatMap table.routesTo).Perm
      (table.routes.filter fun route => route.network ∈ networks) := by
  induction networks with
  | nil => simp
  | cons network rest inductionHypothesis =>
      obtain ⟨absent, restDistinct⟩ := List.nodup_cons.mp distinct
      let listed := table.routes.filter fun route => route.network ∈ network :: rest
      have first : listed.filter (fun route => route.network = network) =
          table.routesTo network := by
        rw [List.filter_filter]
        apply List.filter_congr
        intro route _
        by_cases isTo : route.network = network <;> simp [isTo]
      have others : listed.filter (fun route => !decide (route.network = network)) =
          table.routes.filter fun route => route.network ∈ rest := by
        rw [List.filter_filter]
        apply List.filter_congr
        intro route _
        by_cases isTo : route.network = network <;> simp [isTo, absent]
      have split := List.filter_append_perm (fun route : Route => route.network = network) listed
      rw [first, others] at split
      rw [List.flatMap_cons]
      exact ((inductionHypothesis restDistinct).append_left _).trans split

/-- A listing shows every route once. -/
theorem perm_listing (table : Table) : table.listing.Perm table.routes := by
  have perm := table.perm_flatMap_routesTo table.nodup_networks
  rw [List.filter_eq_self.mpr] at perm
  · exact perm
  · intro route member
    exact decide_eq_true (mem_networks.mpr ⟨route, member, rfl⟩)

/-- Every route is either static or comes from a contact. -/
theorem perm_routesFrom (table : Table) :
    (table.routesFrom .configured ++ table.routesFrom .contact).Perm table.routes := by
  have others : (table.listing.filter fun route => !decide (route.source = .configured)) =
      table.routesFrom .contact := by
    apply List.filter_congr
    intro route _
    cases isFrom : route.source <;> simp
  have split := List.filter_append_perm (fun route : Route => route.source = .configured)
    table.listing
  rw [others] at split
  exact split.trans table.perm_listing

theorem isEmpty_iff {table : Table} : table.isEmpty ↔ table.size = 0 := by
  rw [isEmpty, List.isEmpty_iff, size, List.length_eq_zero_iff]

/-- Without routes there are no networks. -/
theorem networks_eq_nil_iff {table : Table} : table.networks = [] ↔ table.size = 0 := by
  rw [size, List.length_eq_zero_iff, List.eq_nil_iff_forall_not_mem, List.eq_nil_iff_forall_not_mem]
  constructor
  · intro noNetwork route member
    exact noNetwork route.network (mem_networks.mpr ⟨route, member, rfl⟩)
  · intro noRoute network member
    obtain ⟨route, inTable, -⟩ := mem_networks.mp member
    exact noRoute route inTable

end Table

namespace Filing

/-- A filing is sound when its lists are not empty and hold routes to their own network by ascending
numbers. No number is used twice, and the next number is new. -/
structure Sound (filing : Filing) : Prop where
  nonempty : ∀ network, filing.lists.lookup network ≠ some []
  own : ∀ network, ∀ route ∈ filing.routesTo network, route.network = network
  ascending : ∀ network, ((filing.routesTo network).map Route.id).Pairwise (· < ·)
  distinct : ∀ first second, ∀ left ∈ filing.routesTo first, ∀ right ∈ filing.routesTo second,
    left.id = right.id → left = right
  below : ∀ network, ∀ route ∈ filing.routesTo network, route.id < filing.nextId

namespace Files

variable {filing : Filing} {table : Table} (files : filing.Files table)
include files

/-- The lists are in order as the table is. -/
theorem sound (ordered : table.Ordered) : filing.Sound := by
  have filed {network : Network} {route : Route} (member : route ∈ filing.routesTo network) :
      route ∈ table.routes ∧ route.network = network := by
    rw [files.routesTo_eq, Table.routesTo, List.mem_filter, decide_eq_true_iff] at member
    exact member
  constructor
  · intro network
    rw [files.lists]
    split
    next isEmpty => simp
    next isFiled => simpa using isFiled
  · exact fun network route member => (filed member).2
  · intro network
    rw [files.routesTo_eq, List.pairwise_map]
    exact ordered.ascending.filter _
  · intro first second left isLeft right isRight equal
    exact Table.eq_of_id_eq ordered.numbered.distinct (filed isLeft).1 (filed isRight).1 equal
  · intro network route member
    rw [files.nextId]
    exact ordered.below route (filed member).1

theorem size_eq : filing.size = table.size := by
  unfold Filing.size
  rw [files.keys_eq, List.sum_toFinset _ table.nodup_networks]
  have lengths : (table.networks.map fun network => (filing.routesTo network).length) =
      table.networks.map fun network => (table.routesTo network).length := by
    simp only [files.routesTo_eq]
  rw [lengths, ← List.length_flatMap]
  exact table.perm_listing.length_eq

theorem isEmpty_eq : filing.isEmpty = table.isEmpty := by
  apply Bool.eq_iff_iff.mpr
  rw [Table.isEmpty_iff, ← Table.networks_eq_nil_iff, ← List.toFinset_eq_empty_iff, ← files.keys_eq]
  unfold Filing.isEmpty
  rw [decide_eq_true_iff]
  constructor
  · intro noLists
    rw [noLists, Finmap.keys_empty]
  · intro noKeys
    apply Finmap.ext_lookup
    intro network
    rw [Finmap.lookup_empty, Finmap.lookup_eq_none, ← Finmap.mem_keys, noKeys]
    exact Finset.notMem_empty network

end Files

end Filing

/-- After any operations on an empty table the routes are filed under their networks, in lists that
are not empty and in the order of their numbers, and no number is used twice or again.
A withdrawal takes the route that it names, and the count of changes is that of arrivals and
departures.
The static routes and those of contacts are all routes. -/
theorem Table.performAll_sound (operations : List Operation) :
    let table := (Table.empty.performAll operations).1
    let filing := (Filing.empty.performAll operations).1
    (Filing.empty.performAll operations).2 = (Table.empty.performAll operations).2 ∧
    (filing.Files table ∧ filing.lists.keys = table.networks.toFinset ∧
      filing.size = table.size ∧ filing.isEmpty = table.isEmpty) ∧
    filing.Sound ∧
    table.nextId = 1 + Operation.announcements operations ∧
    (∀ later, ∀ route ∈ (table.performAll later).1.routes,
      route.id < table.nextId → route ∈ table.routes) ∧
    ((table.isEmpty ↔ table.size = 0) ∧ (table.networks = [] ↔ table.size = 0)) ∧
    (∀ network id,
      (table.has network id = false ∧ table.withdraw network id = table ∧
        ¬∃ route ∈ table.routesTo network, route.id = id) ∨
      (table.has network id = true ∧ ∃ before route after,
        table.routes = before ++ route :: after ∧ route.network = network ∧ route.id = id ∧
          table.withdraw network id = ⟨before ++ after, table.nextId⟩)) ∧
    (∀ changes,
      (table.apply changes).2 = changes.countP RouteChange.announces +
        (table.departures changes).length ∧
      (table.apply changes).1.size + (table.departures changes).length =
        table.size + changes.countP RouteChange.announces) ∧
    table.listing.Perm table.routes ∧
    (table.routesFrom .configured ++ table.routesFrom .contact).Perm table.routes ∧
    ∀ source, ∀ route ∈ table.routesFrom source, route.source = source := by
  intro table filing
  obtain ⟨files, answers⟩ := Filing.Files.start.performAll operations
  have reached : table = (Table.empty.apply (operations.flatMap Operation.changes)).1 :=
    Table.empty.performAll_eq_apply operations
  have ordered : table.Ordered := by
    rw [reached]
    exact ordered_empty.apply _
  refine ⟨answers, ⟨files, files.keys_eq, files.size_eq, files.isEmpty_eq⟩, files.sound ordered,
    ?_, ?_, ⟨isEmpty_iff, networks_eq_nil_iff⟩, ?_, ?_, table.perm_listing,
    table.perm_routesFrom, ?_⟩
  · rw [reached]
    exact Table.empty.nextId_apply _
  · intro later route member given
    rw [performAll_eq_apply] at member
    exact mem_routes_apply given member
  · intro network id
    rcases ordered.numbered.withdraw_cases network id with ⟨absent, unchanged⟩ | present
    · refine .inl ⟨absent, unchanged, ?_⟩
      rw [← has_iff, absent]
      exact Bool.false_ne_true
    · exact .inr present
  · intro changes
    rw [← table.length_arrivals]
    exact ordered.numbered.apply_balances changes
  · intro source route member
    exact of_decide_eq_true (List.mem_filter.mp member).2

/-- A network that comes back has a new number. -/
example :
    let network : Network := ⟨.v4 ⟨0⟩, 8, by decide⟩
    let attributes : Attributes :=
      { nextHop := none
        origin := .interior
        segments := []
        localPreference := none
        discriminator := none }
    let table := (Table.empty.performAll [.configure network attributes, .withdraw network 1,
      .announce network attributes .contact]).1
    table.routes.map Route.id = [2] := by
  decide

end ContactPlan
