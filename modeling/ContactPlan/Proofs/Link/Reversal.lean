import ContactPlan.Proofs.Link.Closings

namespace ContactPlan

namespace Router

/-- An opening adds as many routes as it counts, and all of them use its contact. -/
theorem handleAlong_opening (router : Router) (contact : Contact) (table : Table)
    (walk : List Network) :
    let opened := router.handleAlong ⟨contact, .opening⟩ table walk
    ∃ added, opened.1.routes = table.routes ++ added ∧ opened.2 = added.length ∧
      ∀ route ∈ added, route.Uses router.own contact := by
  intro opened
  obtain ⟨added, routes, areOffered⟩ := router.routes_openingsAlong contact table walk
  have announce : ∀ change ∈ router.openingsAlong contact table walk, change.announces := by
    intro change member
    obtain ⟨network, attributes, source, rfl, -⟩ :=
      router.opens_openingsAlong contact table walk change member
    rfl
  obtain ⟨arrived, counted⟩ := table.apply_announcements announce
  have isAdded : added = table.arrivals (router.openingsAlong contact table walk) :=
    List.append_cancel_left (routes.symm.trans arrived)
  apply Exists.intro added
  constructor
  · exact routes
  constructor
  · rw [isAdded]
    exact counted
  · intro route member
    rw [Route.uses_iff]
    exact crossedBy_of_mem_offers (areOffered route member).2

/-- A closing that follows an opening leaves the routes from before that do not use the contact. It
counts the routes that the opening has added and those that used the contact before. -/
theorem handleAlong_opening_closing (router : Router) (contact : Contact) {table : Table}
    (numbered : table.Numbered) (walk : List Network) :
    let opened := router.handleAlong ⟨contact, .opening⟩ table walk
    ∀ back : List Network, back.Perm opened.1.networks →
      let closed := router.handleAlong ⟨contact, .closing⟩ opened.1 back
      closed.1.routes = (table.without router.own contact).routes ∧
        closed.2 = opened.2 + table.routes.countP fun route => route.Uses router.own contact := by
  intro opened back walked closed
  obtain ⟨added, routes, counted, use⟩ : ∃ added, opened.1.routes = table.routes ++ added ∧
      opened.2 = added.length ∧ ∀ route ∈ added, route.Uses router.own contact :=
    router.handleAlong_opening contact table walk
  have openedNumbered : opened.1.Numbered := numbered.apply _
  have isClosed : closed = (opened.1.without router.own contact,
      opened.1.routes.countP fun route => route.Uses router.own contact) :=
    router.handleAlong_closing contact openedNumbered walked
  have noneKept : (added.filter fun route => ¬route.Uses router.own contact) = [] := by
    apply List.filter_eq_nil_iff.mpr
    intro route member
    simp [use route member]
  have allCounted : (added.countP fun route => route.Uses router.own contact) = added.length := by
    apply List.countP_eq_length.mpr
    intro route member
    exact decide_eq_true (use route member)
  rw [isClosed]
  constructor
  · change opened.1.routes.filter _ = table.routes.filter _
    rw [routes, List.filter_append, noneKept, List.append_nil]
  · change opened.1.routes.countP _ = opened.2 + _
    rw [routes, List.countP_append, allCounted, counted]
    omega

/-- After any operations on an empty table, a contact that opens and then closes leaves the routes
that did not use it, with their numbers and in their order. The lists of the networks keep the same
routes, and a network without any is gone. The closing counts as many changes as the opening and
one more for each route that used the contact before. Without such a route everything is as it
was. -/
theorem closing_undoes_opening (router : Router) (contact : Contact) (operations : List Operation) :
    let table := (Table.empty.performAll operations).1
    let filing := (Filing.empty.performAll operations).1
    ∀ walk : List Network,
      let openings := router.changesAlong ⟨contact, .opening⟩ table walk
      let opened := router.handleAlong ⟨contact, .opening⟩ table walk
      ∀ back : List Network, back.Perm opened.1.networks →
        let closings := router.changesAlong ⟨contact, .closing⟩ opened.1 back
        let closed := router.handleAlong ⟨contact, .closing⟩ opened.1 back
        let openedFiling := filing.apply openings
        let closedFiling := openedFiling.1.apply closings
        (closed.1.routes = table.routes.filter (fun route => ¬route.Uses router.own contact) ∧
          closed.2 = opened.2 + table.routes.countP fun route => route.Uses router.own contact) ∧
        (openedFiling.2 = opened.2 ∧ closedFiling.2 = closed.2) ∧
        (∀ network,
          let kept :=
            (filing.routesTo network).filter fun route => ¬route.Uses router.own contact
          closedFiling.1.lists.lookup network = if kept = [] then none else some kept) ∧
        ((∀ route ∈ table.routes, ¬route.Uses router.own contact) →
          closed.1.routes = table.routes ∧ closedFiling.1.lists = filing.lists ∧
            closed.2 = opened.2) := by
  intro table filing walk openings opened back walkedBack closings closed openedFiling
    closedFiling
  have numbered : table.Numbered := Table.numbered_performAll operations
  have files : filing.Files table := (Filing.Files.start.performAll operations).1
  have openedFiles : openedFiling.1.Files opened.1 ∧ openedFiling.2 = opened.2 :=
    files.apply openings
  have closedFiles : closedFiling.1.Files closed.1 ∧ closedFiling.2 = closed.2 :=
    openedFiles.1.apply closings
  obtain ⟨routes, counted⟩ : closed.1.routes = (table.without router.own contact).routes ∧
      closed.2 = opened.2 + table.routes.countP fun route => route.Uses router.own contact :=
    router.handleAlong_opening_closing contact numbered walk back walkedBack
  have routesTo (network : Network) :
      closed.1.routesTo network = (table.without router.own contact).routesTo network := by
    unfold Table.routesTo
    rw [routes]
  constructor
  · exact ⟨routes, counted⟩
  constructor
  · exact ⟨openedFiles.2, closedFiles.2⟩
  constructor
  · intro network kept
    have isKept : kept = closed.1.routesTo network := by
      rw [routesTo, Table.routesTo_without, ← files.routesTo_eq]
    rw [isKept]
    exact closedFiles.1.lists network
  · intro unused
    rw [Table.without_of_unused unused] at routes routesTo
    have noUsers : (table.routes.countP fun route => route.Uses router.own contact) = 0 := by
      apply List.countP_eq_zero.mpr
      simpa using unused
    constructor
    · exact routes
    constructor
    · apply Finmap.ext_lookup
      intro network
      rw [closedFiles.1.lists, files.lists, routesTo]
    · omega

/-- The opening splices the first route with the third one. The closing takes the splice away again
and with it two older routes, one of which was all that the side had. -/
theorem closing_undoes_opening_crossroads :
    let table := (Table.empty.performAll crossroads).1
    let contact := ringContact ⟨2, ⟨12⟩⟩ ⟨3, ⟨13⟩⟩
    let opened := ring.handleAlong ⟨contact, .opening⟩ table table.networks
    let back := opened.1.networks.reverse
    let closed := ring.handleAlong ⟨contact, .closing⟩ opened.1 back
    opened.1.routes = table.routes ++ [ringRoute 5 .contact [2, 3] none] ∧
      closed.1.routes.map Route.id = [1, 3] ∧
      closed.1.networks = [(ringRoute 1 .configured [] none).network] ∧
      closed.1.routes = table.routes.filter (fun route => ¬route.Uses ring.own contact) ∧
      closed.2 = opened.2 + 2 := by
  intro table contact opened back closed
  have walked : back.Perm opened.1.networks := List.reverse_perm _
  have users : (table.routes.countP fun route => route.Uses ring.own contact) = 2 := by decide
  constructor
  · decide
  constructor
  · decide
  constructor
  · decide
  -- Without its value the walk cannot be followed, so that the two closings are not evaluated.
  · clear_value back
    obtain ⟨⟨routes, counted⟩, -⟩ :=
      ring.closing_undoes_opening contact crossroads table.networks back walked
    rw [users] at counted
    exact ⟨routes, counted⟩

end Router

end ContactPlan
