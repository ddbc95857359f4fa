import ContactPlan.Proofs.Link.Distinct

namespace ContactPlan

namespace Contact

/-- The endpoints of a valid contact are two, and each is opposite the other. -/
theorem otherAsn?_symm {contact : Contact} (isValid : contact.isValid) {hop start : Asn}
    (opposite : contact.otherAsn? hop = some start) :
    contact.otherAsn? start = some hop ∧ hop ≠ start := by
  have apart := apart_of_isValid isValid
  unfold otherAsn? opposite? at opposite ⊢
  by_cases isFirst : hop = contact.first.asn
  · rw [if_pos isFirst] at opposite
    cases opposite
    rw [if_neg apart.symm, if_pos rfl, isFirst]
    exact ⟨rfl, apart⟩
  · rw [if_neg isFirst] at opposite
    by_cases isSecond : hop = contact.second.asn
    · rw [if_pos isSecond] at opposite
      cases opposite
      rw [if_pos rfl, isSecond]
      exact ⟨rfl, apart.symm⟩
    · rw [if_neg isSecond] at opposite
      cases opposite

/-- How often a path comes to an endpoint of a contact. -/
def visits (contact : Contact) (path : List Asn) : Nat :=
  path.countP fun asn => (contact.otherAsn? asn).isSome

/-- A part of a path does not come to the endpoints more often than the path. -/
theorem visits_le_of_infix {contact : Contact} {part path : List Asn} (isPart : part <:+: path) :
    contact.visits part ≤ contact.visits path :=
  isPart.sublist.countP_le

/-- A path that begins at an endpoint and comes to one later has two visits. -/
theorem two_le_visits_cons {contact : Contact} {first last : Asn} {rest : List Asn}
    (isFirst : (contact.otherAsn? first).isSome) (isLast : (contact.otherAsn? last).isSome)
    (member : last ∈ rest) : 2 ≤ contact.visits (first :: rest) := by
  have later : 0 < contact.visits rest := List.countP_pos_iff.mpr ⟨last, member, isLast⟩
  have both : contact.visits (first :: rest) = contact.visits rest + 1 :=
    List.countP_cons_of_pos isFirst
  omega

/-- Both endpoints on one path are two visits. -/
theorem two_le_visits_of_opposite {contact : Contact} (isValid : contact.isValid) {hop start : Asn}
    (opposite : contact.otherAsn? hop = some start) {path : List Asn} (isHop : hop ∈ path)
    (isStart : start ∈ path) : 2 ≤ contact.visits path := by
  obtain ⟨back, apart⟩ := otherAsn?_symm isValid opposite
  have distinct : [hop, start].Nodup := by simp [apart]
  have included : [hop, start] ⊆ path := by simp [isHop, isStart]
  have both : contact.visits [hop, start] ≤ contact.visits path :=
    (List.subperm_of_subset distinct included).countP_le _
  have two : contact.visits [hop, start] = 2 := by simp [visits, opposite, back]
  omega

/-- A path recurs to a contact when it comes to endpoints twice without crossing the contact.
The whole that it makes possible is spliced from the path and its own tail, or it has a stretch of
the path with two visits. -/
structure Recurs (contact : Contact) (own : Asn) (path whole : List Asn) : Prop where
  notCrossed : ¬contact.crossedBy own path
  twice : 2 ≤ contact.visits path
  returns : Splice.Spliced contact (own :: path) path (own :: whole) ∨
    ∃ stretch, stretch <:+: path ∧ stretch <:+: whole ∧ 2 ≤ contact.visits stretch

end Contact

namespace Splice

/-- A path with a hop is cut after the router. -/
theorem own_mem_cuts {own : Asn} {path : List Asn} (isPath : path ≠ []) :
    ⟨[], own⟩ ∈ cuts own path := by
  obtain ⟨first, rest, rfl⟩ := List.exists_cons_of_ne_nil isPath
  unfold cuts
  rw [List.length_cons, List.range_succ_eq_map]
  exact List.mem_cons_self

/-- An empty path cannot be cut. -/
theorem ne_nil_of_mem_cuts {own : Asn} {path : List Asn} {cut : Cut}
    (isCut : cut ∈ cuts own path) : path ≠ [] := by
  rintro rfl
  cases isCut

/-- A tail of two parts is one of the second part or has a stretch of the first part before it. -/
theorem mem_tails_append {start hop : Asn} {front back tail : List Asn}
    (member : tail ∈ tails start hop (front ++ back)) :
    tail ∈ tails start hop back ∨
      ∃ stretch, stretch ≠ [] ∧ stretch <:+ front ∧ tail = stretch ++ back := by
  obtain ⟨⟨before, split⟩, isTail⟩ := mem_tails.mp member
  rcases List.append_eq_append_iff.mp split with ⟨stretch, isFront, whole⟩ | ⟨between, -, isBack⟩
  · by_cases isEmpty : stretch = []
    · rw [isEmpty, List.nil_append] at whole
      exact .inl (mem_tails.mpr ⟨whole ▸ List.suffix_rfl, isTail⟩)
    · exact .inr ⟨stretch, isEmpty, ⟨before, isFront.symm⟩, whole⟩
  · exact .inl (mem_tails.mpr ⟨⟨between, isBack.symm⟩, isTail⟩)

/-- A tail that begins within the head of a splice has two visits there. If it began at the last hop
of the head, it would lead straight back. -/
theorem recurs_of_stretch {contact : Contact} (isValid : contact.isValid)
    {own start hop lentStart : Asn} {path lentTail stretch : List Asn} {lentCut : Cut}
    (notCrossed : ¬contact.crossedBy own path) (isCut : lentCut ∈ cuts own path)
    (lentOpposite : contact.otherAsn? lentCut.hop = some lentStart)
    (lentBegins : lentTail.head? = some lentStart) (opposite : contact.otherAsn? hop = some start)
    (nonempty : stretch ≠ []) (ends : stretch <:+ lentCut.head)
    (isTail : stretch ++ lentTail ∈ tails start hop (lentCut.head ++ lentTail)) (head : List Asn) :
    contact.Recurs own path (head ++ (stretch ++ lentTail)) := by
  obtain ⟨beginsPath, endsInHop⟩ := head_of_mem_cuts isCut
  have inPath : lentCut.head <+: path := (List.cons_prefix_cons.mp beginsPath).2
  have onPath : stretch <:+: path := ends.isInfix.trans inPath.isInfix
  obtain ⟨-, rest, whole, leads⟩ := mem_tails.mp isTail
  obtain ⟨back, -⟩ := Contact.otherAsn?_symm isValid opposite
  obtain ⟨before, isHead⟩ := ends
  rw [← isHead, ← List.cons_append, List.getLast?_append_of_ne_nil _ nonempty] at endsInHop
  -- The stretch begins on the other side of the hop and ends with the hop of the head. If these
  -- were one, the lent tail behind it would begin with the hop.
  have twice : 2 ≤ contact.visits stretch := by
    match stretch, nonempty with
    | [only], _ =>
        cases whole
        have isHop : start = lentCut.hop := Option.some.inj endsInHop
        rw [← isHop, back] at lentOpposite
        exact absurd (lentBegins.trans lentOpposite.symm) leads
    | first :: second :: others, _ =>
        cases whole
        rw [List.getLast?_cons_cons] at endsInHop
        exact Contact.two_le_visits_cons (by rw [back]; rfl) (by rw [lentOpposite]; rfl)
          (List.mem_of_getLast? endsInHop)
  exact ⟨notCrossed, Nat.le_trans twice (Contact.visits_le_of_infix onPath),
    .inr ⟨stretch, onPath, ⟨head, lentTail, List.append_assoc ..⟩, twice⟩⟩

/-- A path that is spliced with its own tail away from the router comes to both endpoints. -/
theorem recurs_of_own_tail {contact : Contact} (isValid : contact.isValid) {own start : Asn}
    {path tail : List Asn} {cut : Cut} (notCrossed : ¬contact.crossedBy own path)
    (isCut : cut ∈ cuts own path) (away : cut.head ≠ [])
    (opposite : contact.otherAsn? cut.hop = some start)
    (isTail : tail ∈ tails start cut.hop path) : contact.Recurs own path (cut.head ++ tail) := by
  refine ⟨notCrossed, ?_, .inl (spliced_of_cut isCut opposite isTail)⟩
  obtain ⟨beginsPath, endsInHop⟩ := head_of_mem_cuts isCut
  obtain ⟨endsPath, rest, rfl, -⟩ := mem_tails.mp isTail
  have endsHead : cut.head.getLast? = some cut.hop := by
    rw [← endsInHop, ← List.singleton_append, List.getLast?_append_of_ne_nil _ away]
  have isHop : cut.hop ∈ path :=
    (List.cons_prefix_cons.mp beginsPath).2.subset (List.mem_of_getLast? endsHead)
  have isStart : start ∈ path := endsPath.subset List.mem_cons_self
  exact Contact.two_le_visits_of_opposite isValid opposite isHop isStart

end Splice

namespace Router

variable {router : Router} {contact : Contact}

/-- A bare tail leaves through the gateway of the contact, whatever route it is offered for. -/
theorem nextHop?_of_own {start : Asn} (opposite : contact.otherAsn? router.own = some start)
    {tail : List Asn} (begins : tail.head? = some start) {left right : Route}
    (leftNotCrossed : ¬contact.crossedBy router.own left.path)
    (rightNotCrossed : ¬contact.crossedBy router.own right.path) :
    router.nextHop? contact left tail = router.nextHop? contact right tail := by
  have leftOther := (Contact.head?_ne_of_not_crossedBy leftNotCrossed opposite).symm
  have rightOther := (Contact.head?_ne_of_not_crossedBy rightNotCrossed opposite).symm
  unfold nextHop?
  rw [begins, if_neg leftOther, if_neg rightOther]

/-- A bare tail that is offered for one route is offered for every other one in the same way. -/
theorem alike_of_own {routes : List Route} {lender route origin : Route} {start : Asn}
    {tail : List Asn} {attributes : Attributes} (isLender : lender ∈ routes)
    (isOrigin : origin ∈ routes) (apart : origin.id ≠ lender.id) (hasHop : lender.path ≠ [])
    (lenderNotCrossed : ¬contact.crossedBy router.own lender.path)
    (notCrossed : ¬contact.crossedBy router.own route.path)
    (opposite : contact.otherAsn? router.own = some start)
    (isTail : tail ∈ Splice.tails start router.own origin.path)
    (offer : router.offer? contact route tail = some attributes) :
    ∃ known ∈ router.offers contact routes, known.Alike attributes := by
  obtain ⟨nextHop, found, rfl⟩ := Option.map_eq_some_iff.mp offer
  obtain ⟨-, rest, rfl, -⟩ := Splice.mem_tails.mp isTail
  rw [nextHop?_of_own opposite rfl notCrossed lenderNotCrossed] at found
  refine ⟨lender.attributes.reroute (Segment.ofPath (start :: rest)) nextHop,
    mem_offers.mpr ⟨lender, isLender, origin, isOrigin, apart, lenderNotCrossed,
      ⟨[], router.own⟩, Splice.own_mem_cuts hasHop, start, opposite, _, isTail, ?_⟩, rfl, rfl⟩
  exact Option.map_eq_some_iff.mpr ⟨nextHop, found, rfl⟩

/-- What extends a route by a tail of an offer was offered before with the same next hop and path,
unless a path recurs. -/
theorem Extends.again (isValid : contact.isValid) {routes : List Route}
    (distinct : ∀ left ∈ routes, ∀ right ∈ routes, left.id = right.id → left = right)
    {route : Route} (isRoute : route ∈ routes) {lent attributes : Attributes}
    (offered : lent ∈ router.offers contact routes)
    (extend : router.Extends contact route lent.path attributes) :
    (∃ known ∈ router.offers contact routes, known.Alike attributes) ∨
      ∃ source ∈ routes, contact.Recurs router.own source.path attributes.path := by
  obtain ⟨notCrossed, cut, isCut, start, opposite, tail, isTail, offer⟩ := extend
  obtain ⟨lender, isLender, origin, isOrigin, apart, lenderNotCrossed, lentCut, isLentCut,
    lentStart, lentOpposite, lentTail, isLentTail, lentOffer⟩ := mem_offers.mp offered
  obtain ⟨lentEnds, lentRest, isLent, -⟩ := Splice.mem_tails.mp isLentTail
  rw [path_of_offer? lentOffer] at isTail
  rw [path_of_offer? offer]
  -- The tail lies in the part that came from the origin, or it has a part of the lender before it.
  rcases Splice.mem_tails_append isTail with inLentTail | ⟨stretch, nonempty, ends, rfl⟩
  · obtain ⟨endsLent, begins⟩ := Splice.mem_tails.mp inLentTail
    have fromOrigin : tail ∈ Splice.tails start cut.hop origin.path :=
      Splice.mem_tails.mpr ⟨endsLent.trans lentEnds, begins⟩
    by_cases other : origin.id ≠ route.id
    · have known : attributes ∈ router.offers contact routes :=
        mem_offers.mpr ⟨route, isRoute, origin, isOrigin, other, notCrossed, cut, isCut, start,
          opposite, tail, fromOrigin, offer⟩
      exact .inl ⟨attributes, known, rfl, rfl⟩
    -- The route gets its own tail back, which the first opening did not let it use.
    · obtain rfl := distinct origin isOrigin route isRoute (not_not.mp other)
      by_cases away : cut.head = []
      · obtain ⟨-, endsInHop⟩ := Splice.head_of_mem_cuts isCut
        rw [away] at endsInHop offer
        rw [← Option.some.inj endsInHop] at opposite fromOrigin
        exact .inl (alike_of_own isLender isOrigin apart (Splice.ne_nil_of_mem_cuts isLentCut)
          lenderNotCrossed notCrossed opposite fromOrigin offer)
      · exact .inr ⟨origin, isOrigin,
          Splice.recurs_of_own_tail isValid notCrossed isCut away opposite fromOrigin⟩
  · exact .inr ⟨lender, isLender, Splice.recurs_of_stretch isValid lenderNotCrossed isLentCut
      lentOpposite (by rw [isLent]; rfl) opposite nonempty ends isTail cut.head⟩

/-- The table after an opening that walks the networks in the given order. -/
def openedAlong (router : Router) (contact : Contact) (table : Table) (walk : List Network) :
    Table :=
  (table.apply (router.openingsAlong contact table walk)).1

/-- After an opening the table has everything that was offered. -/
theorem triple_mem_opened {table : Table} {walk : List Network} (walked : walk.Perm table.networks)
    {network : Network} {attributes : Attributes}
    (offered : attributes ∈ router.offers contact (table.routesTo network)) :
    attributes.triple network ∈
      (router.openedAlong contact table walk).routes.map Route.triple := by
  unfold openedAlong
  rw [table.triples_apply_announcements (router.isSome_content?_openingsAlong contact table walk),
    List.mem_append]
  by_cases isThere : attributes.triple network ∈ (table.routesTo network).map Route.triple
  · exact .inl (Table.mem_triples_routesTo.mp isThere)
  · exact .inr ((mem_openingsAlong walked).mpr ⟨List.mem_map_of_mem offered, isThere⟩)

/-- After an opening a route is an old one or an offer. -/
theorem mem_routesTo_opened {table : Table} {walk : List Network} {network : Network}
    {route : Route} (member : route ∈ (router.openedAlong contact table walk).routesTo network) :
    route ∈ table.routesTo network ∨
      route.attributes ∈ router.offers contact (table.routesTo network) := by
  obtain ⟨added, routes, areOffered⟩ := router.routes_openingsAlong contact table walk
  obtain ⟨inOpened, isTo⟩ := mem_routesTo member
  unfold openedAlong at inOpened
  rw [routes] at inOpened
  rcases List.mem_append.mp inOpened with old | new
  · exact .inl (List.mem_filter.mpr ⟨old, decide_eq_true isTo⟩)
  · exact .inr (isTo ▸ (areOffered route new).2)

/-- Only the old routes are extended again, since the new ones cross the contact. What they are
offered is there, unless a path recurs. -/
theorem offered_again (isValid : contact.isValid) {table : Table}
    (distinct : (table.routes.map Route.id).Nodup) {walk : List Network}
    (walked : walk.Perm table.networks) {network : Network} {attributes : Attributes}
    (offered : attributes ∈
      router.offers contact ((router.openedAlong contact table walk).routesTo network)) :
    attributes.triple network ∈ (router.openedAlong contact table walk).routes.map Route.triple ∨
      ∃ route ∈ table.routesTo network,
        contact.Recurs router.own route.path attributes.path := by
  obtain ⟨route, isRoute, other, isOther, apart, extend⟩ := mem_offers.mp offered
  rcases mem_routesTo_opened isRoute with isOld | isNew
  · rcases mem_routesTo_opened isOther with otherIsOld | otherIsNew
    · exact .inl (triple_mem_opened walked
        (mem_offers.mpr ⟨route, isOld, other, otherIsOld, apart, extend⟩))
    · have apart (left : Route) (isLeft : left ∈ table.routesTo network) (right : Route)
          (isRight : right ∈ table.routesTo network) : left.id = right.id → left = right :=
        Table.eq_of_id_eq distinct (mem_routesTo isLeft).1 (mem_routesTo isRight).1
      rcases extend.again isValid apart isOld otherIsNew with ⟨known, isKnown, alike⟩ | recurs
      · rw [← Attributes.triple_eq_iff.mpr ⟨rfl, alike⟩]
        exact .inl (triple_mem_opened walked isKnown)
      · exact .inr recurs
  · exact absurd (crossedBy_of_mem_offers isNew) extend.1

/-- A second opening of a contact only announces what a recurring path of one of the routes before
the first opening makes possible. It announces nothing where no path recurs. -/
theorem openingsAlong_again (router : Router) {contact : Contact} (isValid : contact.isValid)
    {table : Table} (distinct : (table.routes.map Route.id).Nodup) {walk : List Network}
    (walked : walk.Perm table.networks) (again : List Network) :
    (∀ change ∈ router.openingsAlong contact (router.openedAlong contact table walk) again,
      ∃ network attributes, change = .announce network attributes .contact ∧
        ∃ route ∈ table.routesTo network,
          contact.Recurs router.own route.path attributes.path) ∧
    ((∀ route ∈ table.routes,
        2 ≤ contact.visits route.path → contact.crossedBy router.own route.path) →
      router.openingsAlong contact (router.openedAlong contact table walk) again = []) := by
  have recurs : ∀ change ∈
      router.openingsAlong contact (router.openedAlong contact table walk) again,
      ∃ network attributes, change = .announce network attributes .contact ∧
        ∃ route ∈ table.routesTo network,
          contact.Recurs router.own route.path attributes.path := by
    intro change member
    obtain ⟨network, attributes, source, rfl, rfl, offered⟩ :=
      router.opens_openingsAlong contact _ again change member
    have absent := (router.fresh_openingsAlong contact _ again).absent (attributes.triple network)
      (List.mem_filterMap.mpr ⟨_, member, rfl⟩)
    exact ⟨network, attributes, rfl,
      (offered_again isValid distinct walked offered).resolve_left absent⟩
  refine ⟨recurs, fun never => List.eq_nil_iff_forall_not_mem.mpr fun change member => ?_⟩
  obtain ⟨network, attributes, -, route, isRoute, recur⟩ := recurs change member
  exact recur.notCrossed (never route (mem_routesTo isRoute).1 recur.twice)

/-- The first path comes to both endpoints of a contact of 2 and 4, and the routes have next hops of
their own. -/
def recurringTable : Table :=
  ⟨[ringRoute 1 .configured [2, 3, 4, 6] (some (.v4 ⟨21⟩)),
    ringRoute 2 .configured [2, 5] (some (.v4 ⟨22⟩))], 3⟩

def recurringContact : Contact := ringContact ⟨2, ⟨12⟩⟩ ⟨4, ⟨14⟩⟩

/-- One opening does not settle every table. The second route lends the first one its own tail. -/
theorem openings_not_settled :
    ¬∀ (router : Router) (contact : Contact) (table : Table), contact.isValid → table.Numbered →
      router.openings contact (router.handle ⟨contact, .opening⟩ table).1 = [] := by
  intro settled
  have numbered : recurringTable.Numbered := ⟨by decide, by decide⟩
  have nothing := settled ring recurringContact recurringTable (by decide) numbered
  exact absurd nothing (by decide)

/-- Where no path recurs the second opening has nothing left to announce, and elsewhere what it
announces goes back to the path that does. -/
theorem openingsAlong_again_ring :
    let spoke := ringContact ⟨1, ⟨11⟩⟩ ⟨3, ⟨13⟩⟩
    spoke.isValid ∧ tailsTable.Numbered ∧ ring.openings spoke tailsTable ≠ [] ∧
      ring.openings spoke (ring.openedAlong spoke tailsTable tailsTable.networks) = [] ∧
      ∃ route ∈ recurringTable.routes, recurringContact.Recurs ring.own route.path [2, 4, 6] := by
  intro spoke
  have isValid : spoke.isValid := by decide
  have numbered : tailsTable.Numbered := ⟨by decide, by decide⟩
  have recurringDistinct : (recurringTable.routes.map Route.id).Nodup := by decide
  have settled :
      ring.openings spoke (ring.openedAlong spoke tailsTable tailsTable.networks) = [] :=
    (ring.openingsAlong_again isValid numbered.distinct (.refl _) _).2 (by decide)
  let left := ringRoute 5 .contact [2, 4, 6] (some (.v4 ⟨21⟩))
  have announced : .announce left.network left.attributes .contact ∈ ring.openings recurringContact
      (ring.openedAlong recurringContact recurringTable recurringTable.networks) := by decide
  obtain ⟨network, attributes, same, route, isRoute, recurs⟩ :=
    (ring.openingsAlong_again (by decide) recurringDistinct (.refl _) _).1 _ announced
  cases same
  exact ⟨isValid, numbered, by decide, settled, route, (mem_routesTo isRoute).1, recurs⟩

end Router

end ContactPlan
