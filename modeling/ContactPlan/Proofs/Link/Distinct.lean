import ContactPlan.Proofs.Link.Order

namespace ContactPlan

namespace RouteChange

/-- Changes are fresh to a table when they announce different triples that it does not have. -/
structure Fresh (table : Table) (changes : List RouteChange) : Prop where
  distinct : (changes.filterMap triple?).Nodup
  absent : ∀ triple ∈ changes.filterMap triple?, triple ∉ table.routes.map Route.triple

theorem fresh_nil (table : Table) : Fresh table [] :=
  ⟨List.nodup_nil, by simp⟩

end RouteChange

/-- The triple of a route is looked for among the routes to its network. -/
theorem Table.mem_triples_routesTo {table : Table} {attributes : Attributes} {network : Network} :
    attributes.triple network ∈ (table.routesTo network).map Route.triple ↔
      attributes.triple network ∈ table.routes.map Route.triple := by
  rw [List.mem_map, List.mem_map]
  apply exists_congr
  intro route
  unfold Table.routesTo
  rw [List.mem_filter, decide_eq_true_iff]
  constructor
  · rintro ⟨⟨member, -⟩, equal⟩
    exact ⟨member, equal⟩
  · rintro ⟨member, equal⟩
    exact ⟨⟨member, congrArg Prod.fst equal⟩, equal⟩

/-- A known triple is not announced, and an announced one is known from then on. -/
theorem Attributes.fresh_announceIfNew {table : Table} {pending : List RouteChange}
    (fresh : RouteChange.Fresh table pending) (attributes : Attributes) (network : Network) :
    RouteChange.Fresh table
      (attributes.announceIfNew network (table.routesTo network) pending) := by
  unfold announceIfNew
  split
  next isNew =>
    obtain ⟨notInTable, notPending⟩ := isNew_iff.mp isNew
    rw [Table.mem_triples_routesTo] at notInTable
    have added : (pending ++ [RouteChange.announce network attributes .contact]).filterMap
        RouteChange.triple? = pending.filterMap RouteChange.triple? ++
          [attributes.triple network] := List.filterMap_append
    constructor
    · rw [added, ← List.concat_eq_append]
      exact fresh.distinct.concat notPending
    · rw [added, List.forall_mem_append, List.forall_mem_singleton]
      exact ⟨fresh.absent, notInTable⟩
  · exact fresh

namespace Router

/-- The announcements stay fresh when the new offers for a network are added. -/
theorem fresh_announceNew {table : Table} {network : Network} (offered : List Attributes)
    {pending : List RouteChange} (fresh : RouteChange.Fresh table pending) :
    RouteChange.Fresh table (announceNew network (table.routesTo network) offered pending) := by
  induction offered generalizing pending with
  | nil => exact fresh
  | cons attributes rest inductionHypothesis =>
      exact inductionHypothesis (attributes.fresh_announceIfNew fresh network)

/-- An opening does not announce what is there, nor anything twice. -/
theorem fresh_openingsAlong (router : Router) (contact : Contact) (table : Table)
    (walk : List Network) :
    RouteChange.Fresh table (router.openingsAlong contact table walk) := by
  have walked (walk : List Network) {pending : List RouteChange}
      (fresh : RouteChange.Fresh table pending) :
      RouteChange.Fresh table (walk.foldl (fun pending network =>
        announceNew network (table.routesTo network)
          (router.offers contact (table.routesTo network)) pending) pending) := by
    induction walk generalizing pending with
    | nil => exact fresh
    | cons network rest inductionHypothesis =>
        exact inductionHypothesis (fresh_announceNew _ fresh)
  exact walked walk (RouteChange.fresh_nil table)

end Router

/-- Announced triples stand behind those that were there. -/
theorem Table.triples_apply_announcements (table : Table) {changes : List RouteChange}
    (announce : ∀ change ∈ changes, change.content?.isSome) :
    (table.apply changes).1.routes.map Route.triple =
      table.routes.map Route.triple ++ changes.filterMap RouteChange.triple? := by
  induction changes generalizing table with
  | nil => simp
  | cons change rest inductionHypothesis =>
      cases change with
      | withdraw network id => cases announce _ List.mem_cons_self
      | announce network attributes source =>
          have later := inductionHypothesis (table.announce network attributes source)
            fun change member => announce change (List.mem_cons_of_mem _ member)
          rw [apply_cons]
          refine later.trans ?_
          change (table.routes ++ [_]).map Route.triple ++ _ = _
          rw [List.map_append, List.append_assoc]
          rfl

namespace Router

/-- An event adds a route with a triple only when there is none. -/
theorem count_changesAlong_le (router : Router) (event : Event) (table : Table)
    (walk : List Network) (triple : Network × Option Address × List Asn) :
    ((table.apply (router.changesAlong event table walk)).1.routes.map Route.triple).count triple ≤
      max 1 ((table.routes.map Route.triple).count triple) := by
  obtain ⟨contact, boundary⟩ := event
  cases boundary with
  | opening =>
      have fresh := router.fresh_openingsAlong contact table walk
      change ((table.apply (router.openingsAlong contact table walk)).1.routes.map
        Route.triple).count triple ≤ _
      have announce := router.isSome_content?_openingsAlong contact table walk
      rw [table.triples_apply_announcements announce, List.count_append]
      by_cases announced :
          triple ∈ (router.openingsAlong contact table walk).filterMap RouteChange.triple?
      · rw [List.count_eq_zero_of_not_mem (fresh.absent triple announced), Nat.zero_add]
        exact Nat.le_trans (List.nodup_iff_count_le_one.mp fresh.distinct triple)
          (Nat.le_max_left _ _)
      · rw [List.count_eq_zero_of_not_mem announced, Nat.add_zero]
        exact Nat.le_max_right _ _
  | closing =>
      change ((table.apply (router.closingsAlong contact table walk)).1.routes.map
        Route.triple).count triple ≤ _
      rw [routes_apply_closingsAlong]
      exact Nat.le_trans (List.Sublist.count_le triple (List.filter_sublist.map Route.triple))
        (Nat.le_max_right _ _)

/-- Whatever contacts open and close, no triple of network, next hop and path becomes more frequent
than it was at first, except that it may come in once. Where every triple was there once at most,
this stays so. -/
theorem Run.triples_not_repeated {router : Router} {initial table : Table} {history : List Event}
    (run : router.Run initial history table) :
    (∀ triple, (table.routes.map Route.triple).count triple ≤
      max 1 ((initial.routes.map Route.triple).count triple)) ∧
    ((initial.routes.map Route.triple).Nodup → (table.routes.map Route.triple).Nodup) := by
  have bounded (triple : Network × Option Address × List Asn) :
      (table.routes.map Route.triple).count triple ≤
        max 1 ((initial.routes.map Route.triple).count triple) := by
    induction run with
    | start => exact Nat.le_max_right _ _
    | @handle history table run event networks walked inductionHypothesis =>
        have step := router.count_changesAlong_le event table networks triple
        omega
  refine ⟨bounded, fun distinct => List.nodup_iff_count_le_one.mpr fun triple => ?_⟩
  have once := List.nodup_iff_count_le_one.mp distinct triple
  exact Nat.le_trans (bounded triple) (Nat.max_le.mpr ⟨Nat.le_refl 1, once⟩)

/-- The path of this route is that of another one in other segments. -/
def segmentedRoute : Route :=
  let route := ringRoute 6 .configured [2, 4] none
  { route with
    attributes := { route.attributes with segments := [.unordered [2], .sequence [4]] } }

/-- Three of the routes ask for the same splice. -/
def segmentedTable : Table := ⟨tailsTable.routes ++ [segmentedRoute], 7⟩

/-- The splice comes in once, and the path in two segmentations stays as frequent as it was. -/
theorem Run.triples_not_repeated_segmented :
    let contact := ringContact ⟨1, ⟨11⟩⟩ ⟨3, ⟨13⟩⟩
    let history : List Event :=
      [⟨contact, .opening⟩, ⟨contact, .closing⟩, ⟨contact, .opening⟩]
    ∃ table, ring.Run segmentedTable history table ∧
      (table.routes.map Route.triple).count
        ((ringRoute 1 .contact [3, 6] (some (.v4 ⟨11⟩))).triple) = 1 ∧
      (table.routes.map Route.triple).count segmentedRoute.triple ≤ 2 ∧
      (segmentedTable.routes.map Route.triple).count segmentedRoute.triple = 2 := by
  intro contact history
  have started : ring.Run segmentedTable [] segmentedTable := .start
  have run := ((started.handled ⟨contact, .opening⟩).handled ⟨contact, .closing⟩).handled
    ⟨contact, .opening⟩
  have bounded := run.triples_not_repeated.1
  refine ⟨_, run, Nat.le_antisymm (Nat.le_trans (bounded _) (by decide)) ?_,
    Nat.le_trans (bounded _) (by decide), by decide⟩
  exact List.one_le_count_iff.mpr (by decide)

end Router

end ContactPlan
