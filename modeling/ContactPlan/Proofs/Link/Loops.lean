import ContactPlan.Proofs.Link.Run
import Mathlib.Data.List.Nodup

namespace ContactPlan

namespace Splice

variable {contact : Contact} {own : Asn} {path other head tail : List Asn}

/-- The head leads along one path to an endpoint of the contact, and the tail leads on from the
other endpoint to the end of another path. It does not go straight back. -/
structure Across (contact : Contact) (path other head tail : List Asn) : Prop where
  begins : head <+: path
  ends : tail <:+ other
  joined : ∃ hop start, head.getLast? = some hop ∧ tail.head? = some start ∧
    contact.joins hop start ∧ tail[1]? ≠ some hop

/-- A cut and a tail behind it lead across the contact. -/
theorem across_of_cut {start : Asn} {cut : Cut} (isCut : cut ∈ cuts own path)
    (opposite : contact.otherAsn? cut.hop = some start)
    (isTail : tail ∈ tails start cut.hop other) :
    Across contact (own :: path) other (own :: cut.head) tail := by
  obtain ⟨beginsPath, endsInHop⟩ := head_of_mem_cuts isCut
  obtain ⟨endsOther, rest, rfl, leads⟩ := mem_tails.mp isTail
  refine ⟨beginsPath, endsOther, cut.hop, start, endsInHop, rfl,
    Contact.otherAsn?_eq_some_iff.mp opposite, ?_⟩
  rwa [List.getElem?_cons_succ, ← List.head?_eq_getElem?]

namespace Across

variable (across : Across contact (own :: path) other head tail)
include across

/-- The router itself is the first system of the head. -/
theorem own_mem_head : own ∈ head := by
  obtain ⟨hop, start, endsInHop, -⟩ := across.joined
  obtain ⟨front, rfl⟩ := List.getLast?_eq_some_iff.mp endsInHop
  cases front with
  | nil => simp [(List.cons_prefix_cons.mp across.begins).1]
  | cons first rest => simp [(List.cons_prefix_cons.mp across.begins).1]

variable (pathOnce : (own :: path).Nodup) (otherOnce : (own :: other).Nodup)
include pathOnce otherOnce

/-- A system comes twice when it is on the head and on the tail, and it never comes more often. -/
theorem count_eq (asn : Asn) :
    (head ++ tail).count asn = (if asn ∈ head then 1 else 0) + if asn ∈ tail then 1 else 0 := by
  have headOnce : head.Nodup := pathOnce.sublist across.begins.sublist
  have tailOnce : tail.Nodup := otherOnce.of_cons.sublist across.ends.sublist
  rw [List.count_append, headOnce.count, tailOnce.count]

/-- Two stretches without loops make a loop when they share a system. -/
theorem nodup_append_iff : (head ++ tail).Nodup ↔ head.Disjoint tail := by
  have headOnce : head.Nodup := pathOnce.sublist across.begins.sublist
  have tailOnce : tail.Nodup := otherOnce.of_cons.sublist across.ends.sublist
  rw [List.nodup_append', and_iff_right headOnce, and_iff_right tailOnce]

/-- No tail comes back to the router. -/
theorem count_own : (head ++ tail).count own = 1 := by
  have notBack : own ∉ tail :=
    fun back => (List.nodup_cons.mp otherOnce).1 (across.ends.subset back)
  rw [across.count_eq pathOnce otherOnce, if_pos across.own_mem_head, if_neg notBack]

end Across

end Splice

namespace Router

/-- The path of an extension leads across the contact. -/
theorem Extends.across {router : Router} {contact : Contact} {route : Route} {other : List Asn}
    {attributes : Attributes} (extend : router.Extends contact route other attributes) :
    ∃ head tail, Splice.Across contact (router.own :: route.path) other head tail ∧
      router.own :: attributes.path = head ++ tail := by
  obtain ⟨-, cut, isCut, start, opposite, tail, isTail, offer⟩ := extend
  rw [path_of_offer? offer]
  exact ⟨_, tail, Splice.across_of_cut isCut opposite isTail, rfl⟩

/-- When no route to a network comes to a system twice, what an opening announces for it joins two
stretches of different routes that do not either. The router comes only once, no system comes more
than twice, and one that comes twice is on both stretches. -/
theorem openingsAlong_repeats (router : Router) (contact : Contact) {table : Table}
    (walk : List Network) {network : Network}
    (once : ∀ route ∈ table.routesTo network, (router.own :: route.path).Nodup)
    {attributes : Attributes} {source : Source}
    (announced : .announce network attributes source ∈ router.openingsAlong contact table walk) :
    let whole := router.own :: attributes.path
    ∃ route ∈ table.routesTo network, ∃ other ∈ table.routesTo network, other.id ≠ route.id ∧
      ∃ head tail, Splice.Across contact (router.own :: route.path) other.path head tail ∧
        whole = head ++ tail ∧ whole.count router.own = 1 ∧
        (∀ asn, whole.count asn ≤ 2 ∧ (whole.count asn = 2 ↔ asn ∈ head ∧ asn ∈ tail)) ∧
        (whole.Nodup ↔ head.Disjoint tail) := by
  intro whole
  obtain ⟨_, _, _, same, -, offered⟩ := router.opens_openingsAlong contact table walk _ announced
  cases same
  obtain ⟨route, isRoute, other, isOther, apart, extend⟩ := mem_offers.mp offered
  obtain ⟨head, tail, across, joined⟩ := extend.across
  have routeOnce := once route isRoute
  have otherOnce := once other isOther
  refine ⟨route, isRoute, other, isOther, apart, head, tail, across, joined, ?_, ?_, ?_⟩
  · rw [show whole = head ++ tail from joined]
    exact across.count_own routeOnce otherOnce
  · intro asn
    rw [show whole = head ++ tail from joined, across.count_eq routeOnce otherOnce]
    by_cases onHead : asn ∈ head <;> by_cases onTail : asn ∈ tail <;> simp [onHead, onTail]
  · rw [show whole = head ++ tail from joined]
    exact across.nodup_append_iff routeOnce otherOnce

/-- The second route uses the link between 2 and 4 and goes on to 3, which stands before 2 on the
first one. -/
def sharingTable : Table :=
  ⟨[ringRoute 1 .configured [3, 2, 5] (some (.v4 ⟨21⟩)),
    ringRoute 2 .configured [2, 4, 3] (some (.v4 ⟨22⟩))], 3⟩

/-- A loop can come from routes without loops. -/
theorem openings_not_loopFree :
    ¬∀ (router : Router) (contact : Contact) (table : Table) (network : Network),
      contact.isValid → (∀ route ∈ table.routesTo network, (router.own :: route.path).Nodup) →
        ∀ attributes source,
          .announce network attributes source ∈ router.openings contact table →
            (router.own :: attributes.path).Nodup := by
  intro loopFree
  let looping := ringRoute 3 .contact [3, 2, 4, 3] (some (.v4 ⟨21⟩))
  have free := loopFree ring (ringContact ⟨2, ⟨12⟩⟩ ⟨4, ⟨14⟩⟩) sharingTable looping.network
    (by decide) (by decide) looping.attributes .contact (by decide)
  exact absurd free (by decide)

/-- Only 3 comes twice on the path that is announced. -/
theorem openingsAlong_repeats_sharing :
    let contact := ringContact ⟨2, ⟨12⟩⟩ ⟨4, ⟨14⟩⟩
    let looping := ringRoute 3 .contact [3, 2, 4, 3] (some (.v4 ⟨21⟩))
    (∀ route ∈ sharingTable.routesTo looping.network, (ring.own :: route.path).Nodup) ∧
      .announce looping.network looping.attributes .contact ∈
        ring.openings contact sharingTable ∧
      ∃ route ∈ sharingTable.routes, ∃ other ∈ sharingTable.routes, other.id ≠ route.id ∧
        ∃ head tail, Splice.Across contact (ring.own :: route.path) other.path head tail ∧
          [1, 3, 2, 4, 3] = head ++ tail ∧ 3 ∈ head ∧ 3 ∈ tail := by
  intro contact looping
  have once : ∀ route ∈ sharingTable.routesTo looping.network, (ring.own :: route.path).Nodup := by
    decide
  have announced : .announce looping.network looping.attributes .contact ∈
      ring.openings contact sharingTable := by decide
  obtain ⟨route, isRoute, other, isOther, apart, head, tail, across, joined, -, counted, -⟩ :=
    ring.openingsAlong_repeats contact sharingTable.networks once announced
  obtain ⟨onHead, onTail⟩ := (counted 3).2.mp (by decide)
  exact ⟨once, announced, route, (mem_routesTo isRoute).1, other, (mem_routesTo isOther).1, apart,
    head, tail, across, joined, onHead, onTail⟩

end Router

end ContactPlan
