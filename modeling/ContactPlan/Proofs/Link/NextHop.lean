import ContactPlan.Proofs.Link.Openings

namespace ContactPlan

namespace Contact

variable {contact : Contact} {own : Asn} {path : List Asn}

/-- The router crosses a contact itself when the contact joins it with the first hop. -/
def crossedFirst (contact : Contact) (own : Asn) (path : List Asn) : Bool :=
  path.head?.any (contact.joins own)

/-- A path crosses the contact first when its first hop is opposite the router. -/
theorem crossedFirst_iff :
    contact.crossedFirst own path ↔ ∃ start, path.head? = some start ∧ contact.joins own start := by
  simp [crossedFirst, Option.any_eq_true]

/-- A path that does not cross the contact does not cross it first. -/
theorem not_crossedFirst_of_not_crossedBy (notCrossed : ¬contact.crossedBy own path) :
    ¬contact.crossedFirst own path := by
  intro crossed
  obtain ⟨start, begins, joins⟩ := crossedFirst_iff.mp crossed
  exact head?_ne_of_not_crossedBy notCrossed (otherAsn?_eq_some_iff.mpr joins) begins

end Contact

namespace Splice

/-- A candidate keeps the first hop of its path, unless the router crosses the contact itself. -/
theorem head?_ne_iff {contact : Contact} {own : Asn} {path : List Asn} {others : List (List Asn)}
    {candidate : List Asn} (member : candidate ∈ candidates contact own path others) :
    candidate.head? ≠ path.head? ↔ contact.crossedFirst own candidate := by
  obtain ⟨notCrossed, cut, isCut, start, opposite, other, -, tail, isTail, rfl⟩ :=
    mem_candidates.mp member
  obtain ⟨beginsPath, endsInHop⟩ := head_of_mem_cuts isCut
  obtain ⟨head, hop⟩ := cut
  cases head with
  -- The cut is behind the router, so the candidate is a tail from the other side.
  | nil =>
      cases endsInHop
      obtain ⟨-, rest, rfl, -⟩ := mem_tails.mp isTail
      apply iff_of_true
      · intro sameFirst
        exact Contact.head?_ne_of_not_crossedBy notCrossed opposite sameFirst.symm
      · exact Contact.crossedFirst_iff.mpr
          ⟨start, rfl, Contact.otherAsn?_eq_some_iff.mp opposite⟩
  | cons first rest =>
      obtain ⟨after, rfl⟩ := (List.cons_prefix_cons.mp beginsPath).2
      apply iff_of_false
      · exact not_not.mpr rfl
      · intro crossed
        exact Contact.not_crossedFirst_of_not_crossedBy notCrossed crossed

end Splice

namespace Router

variable {router : Router} {contact : Contact} {routes : List Route} {route : Route}
  {path : List Asn}

/-- For a candidate the router leaves through its gateway if it crosses the contact itself, and by
the next hop of the route otherwise. -/
theorem leavesBy_iff {nextHop : Option Address}
    (isCandidate : path ∈ router.candidates contact route routes) :
    router.LeavesBy contact route path nextHop ↔
      if contact.crossedFirst router.own path then
        ∃ gateway neighbor, contact.gateway? router.own = some gateway ∧
          router.resolver.resolve? gateway = some neighbor ∧ nextHop = some (.v4 neighbor.address)
      else nextHop = route.attributes.nextHop := by
  have sameFirst : path.head? = route.path.head? ↔ ¬contact.crossedFirst router.own path := by
    rw [← Splice.head?_ne_iff isCandidate, not_not]
  unfold LeavesBy
  by_cases crossed : contact.crossedFirst router.own path
  · rw [if_neg (by simp [sameFirst, crossed]), if_pos crossed]
  · rw [if_pos (sameFirst.mpr crossed), if_neg crossed]

/-- The first of the routes that offer a next hop and path is the source of its announcement. -/
structure Sources (router : Router) (contact : Contact) (routes : List Route) (route : Route)
    (attributes : Attributes) : Prop where
  first : ∃ before after, routes = before ++ route :: after ∧
    ∀ earlier ∈ before,
      ¬router.Produces contact routes earlier attributes.nextHop attributes.path
  considered : attributes.path ∈ router.candidates contact route routes
  offered : router.offer? contact route attributes.path = some attributes

/-- The next hop of an announcement is the one by which its path leaves the router. -/
theorem Sources.leavesBy {attributes : Attributes}
    (sources : router.Sources contact routes route attributes) :
    router.LeavesBy contact route attributes.path attributes.nextHop := by
  obtain ⟨nextHop, found, inherits⟩ := Option.map_eq_some_iff.mp sources.offered
  rw [← inherits]
  rw [← inherits] at found
  exact nextHop?_eq_some_iff.mp found

/-- Across the contact an announcement goes to the neighbor on the side of the router. -/
theorem Sources.neighbor {attributes : Attributes}
    (sources : router.Sources contact routes route attributes)
    (crossed : contact.crossedFirst router.own attributes.path) :
    ∃ gateway neighbor, contact.gateway? router.own = some gateway ∧
      router.resolver.resolve? gateway = some neighbor ∧
      attributes.nextHop = some (.v4 neighbor.address) := by
  have leaves := sources.leavesBy
  rwa [leavesBy_iff sources.considered, if_pos crossed] at leaves

end Router

end ContactPlan
