import ContactPlan.Route.Table
import Mathlib.Data.List.Nodup

namespace ContactPlan

theorem Network.mem_insertInto {network other : Network} {networks : List Network} :
    other ∈ network.insertInto networks ↔ other = network ∨ other ∈ networks := by
  induction networks with
  | nil => simp [insertInto]
  | cons head rest inductionHypothesis =>
      unfold insertInto
      split
      · exact List.mem_cons
      · split
        next equal =>
          rw [equal]
          simp
        · rw [List.mem_cons, inductionHypothesis, List.mem_cons]
          exact or_left_comm

/-- The network of every route is listed. -/
theorem Table.mem_networks {table : Table} {network : Network} :
    network ∈ table.networks ↔ ∃ route ∈ table.routes, route.network = network := by
  unfold networks
  induction table.routes with
  | nil => simp
  | cons route rest inductionHypothesis =>
      rw [List.foldr_cons, Network.mem_insertInto, inductionHypothesis]
      simp [eq_comm]

/-- A change removes the route that it withdraws. -/
def RouteChange.removes (route : Route) : RouteChange → Bool
  | .announce _ _ _ => false
  | .withdraw network id => route.network = network && route.id = id

namespace Table

/-- No two routes share a number, and the next number and all numbers after it are new.
This is more than distinct numbers, and a table that has been empty keeps it through all changes. -/
structure Numbered (table : Table) : Prop where
  distinct : (table.routes.map Route.id).Nodup
  below : ∀ route ∈ table.routes, route.id < table.nextId

theorem numbered_empty : Numbered Table.empty :=
  ⟨List.nodup_nil, by simp [Table.empty]⟩

/-- An announced route takes the next number, which is new. -/
theorem Numbered.announce {table : Table} (numbered : table.Numbered) (network : Network)
    (attributes : Attributes) (source : Source) :
    (table.announce network attributes source).Numbered := by
  constructor
  · change ((table.routes ++ [_]).map Route.id).Nodup
    rw [List.map_append, List.nodup_append]
    refine ⟨numbered.distinct, List.nodup_singleton _, ?_⟩
    intro old isOld new isNew equal
    obtain ⟨route, member, rfl⟩ := List.mem_map.mp isOld
    rw [List.map_singleton, List.mem_singleton] at isNew
    exact Nat.lt_irrefl _ ((equal.trans isNew) ▸ numbered.below route member)
  · intro route member
    rcases List.mem_append.mp member with old | new
    · exact Nat.lt_succ_of_lt (numbered.below route old)
    · rw [List.mem_singleton.mp new]
      exact Nat.lt_succ_self _

/-- The routes that stay keep their numbers. -/
theorem Numbered.withdraw {table : Table} (numbered : table.Numbered) (network : Network)
    (id : Nat) : (table.withdraw network id).Numbered := by
  constructor
  · exact List.Nodup.sublist (List.filter_sublist.map Route.id) numbered.distinct
  · intro route member
    exact numbered.below route (List.mem_filter.mp member).1

/-- A change keeps a table numbered. -/
theorem Numbered.change {table : Table} (numbered : table.Numbered) (change : RouteChange) :
    (table.change change).Numbered := by
  cases change with
  | announce network attributes source => exact numbered.announce network attributes source
  | withdraw network id => exact numbered.withdraw network id

/-- A number belongs to one route only. -/
theorem eq_of_id_eq {table : Table} (distinct : (table.routes.map Route.id).Nodup)
    {left right : Route} (isLeft : left ∈ table.routes) (isRight : right ∈ table.routes)
    (equal : left.id = right.id) : left = right :=
  List.inj_on_of_nodup_map distinct isLeft isRight equal

theorem apply_cons (table : Table) (change : RouteChange) (changes : List RouteChange) :
    (table.apply (change :: changes)).1 = ((table.change change).apply changes).1 := rfl

/-- Applied changes keep the numbers distinct. -/
theorem Numbered.apply {table : Table} (numbered : table.Numbered) (changes : List RouteChange) :
    (table.apply changes).1.Numbered := by
  induction changes generalizing table with
  | nil => exact numbered
  | cons change rest inductionHypothesis =>
      rw [apply_cons]
      exact inductionHypothesis (numbered.change change)

/-- Announced routes stand behind the others and have what the changes ask for. -/
theorem routes_apply_announcements (table : Table) (asked : Network → Attributes → Source → Prop)
    (changes : List RouteChange)
    (announce : ∀ change ∈ changes, ∃ network attributes source,
      change = .announce network attributes source ∧ asked network attributes source) :
    ∃ added, (table.apply changes).1.routes = table.routes ++ added ∧
      ∀ route ∈ added, asked route.network route.attributes route.source := by
  induction changes generalizing table with
  | nil => exact ⟨[], (List.append_nil _).symm, by simp⟩
  | cons change rest inductionHypothesis =>
      obtain ⟨network, attributes, source, rfl, isAsked⟩ := announce change List.mem_cons_self
      obtain ⟨added, routes, areAsked⟩ :=
        inductionHypothesis (table.announce network attributes source)
          fun change member => announce change (List.mem_cons_of_mem _ member)
      refine ⟨table.announced network attributes source :: added, ?_, ?_⟩
      · rw [apply_cons]
        exact routes.trans (List.append_assoc _ _ _)
      · intro route member
        rcases List.mem_cons.mp member with rfl | isAdded
        · exact isAsked
        · exact areAsked route isAdded

/-- Withdrawn routes are missing, and the order of the others stays. -/
theorem routes_apply_withdrawals (table : Table) (changes : List RouteChange)
    (withdraw : ∀ change ∈ changes, ∃ network id, change = .withdraw network id) :
    (table.apply changes).1.routes =
      table.routes.filter fun route => !(changes.any (RouteChange.removes route)) := by
  induction changes generalizing table with
  | nil =>
      simp
  | cons change rest inductionHypothesis =>
      obtain ⟨network, id, rfl⟩ := withdraw change List.mem_cons_self
      have others := inductionHypothesis (table.withdraw network id)
        fun change member => withdraw change (List.mem_cons_of_mem _ member)
      rw [apply_cons]
      refine others.trans ?_
      change (table.routes.filter _).filter _ = _
      rw [List.filter_filter]
      apply List.filter_congr
      intro route _
      rw [List.any_cons, Bool.not_or, Bool.and_comm]
      rfl

end Table

end ContactPlan
