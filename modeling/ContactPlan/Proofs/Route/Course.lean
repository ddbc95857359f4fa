import ContactPlan.Proofs.Route.Change

namespace ContactPlan

def RouteChange.announces : RouteChange → Bool
  | .announce _ _ _ => true
  | .withdraw _ _ => false

namespace Table

theorem apply_append (table : Table) (first second : List RouteChange) :
    (table.apply (first ++ second)).1 = ((table.apply first).1.apply second).1 := by
  induction first generalizing table with
  | nil => rfl
  | cons change rest inductionHypothesis =>
      rw [List.cons_append, apply_cons, inductionHypothesis, apply_cons]

/-- A table has a number for a network when a route to it does. -/
theorem has_iff {table : Table} {network : Network} {id : Nat} :
    table.has network id ↔ ∃ route ∈ table.routesTo network, route.id = id := by
  unfold has routesTo
  rw [List.any_eq_true]
  apply exists_congr
  intro route
  rw [List.mem_filter, Bool.and_eq_true, decide_eq_true_iff, decide_eq_true_iff, and_assoc]

/-- The other routes have other numbers. -/
theorem Numbered.id_ne_of_split {table : Table} (numbered : table.Numbered)
    {before after : List Route} {route : Route} (split : table.routes = before ++ route :: after) :
    ∀ other ∈ before ++ after, other.id ≠ route.id := by
  have distinct := numbered.distinct
  rw [split, List.map_append, List.map_cons, List.nodup_middle, List.nodup_cons,
    ← List.map_append] at distinct
  exact fun other member equal => distinct.1 (equal ▸ List.mem_map_of_mem member)

/-- A withdrawal takes the one route that it names, and without such a route it does nothing. -/
theorem Numbered.withdraw_cases {table : Table} (numbered : table.Numbered) (network : Network)
    (id : Nat) :
    (table.has network id = false ∧ table.withdraw network id = table) ∨
      (table.has network id = true ∧ ∃ before route after,
        table.routes = before ++ route :: after ∧ route.network = network ∧ route.id = id ∧
          table.withdraw network id = ⟨before ++ after, table.nextId⟩) := by
  cases present : table.has network id with
  | false =>
      refine .inl ⟨rfl, ?_⟩
      have kept : ∀ route ∈ table.routes, !(route.network = network && route.id = id) := by
        intro route member
        rw [has, List.any_eq_false] at present
        rw [eq_false_of_ne_true (present route member)]
        rfl
      unfold Table.withdraw
      rw [List.filter_eq_self.mpr kept]
  | true =>
      obtain ⟨route, member, named⟩ := List.any_eq_true.mp present
      have sameNetwork := of_decide_eq_true (Bool.and_eq_true_iff.mp named).1
      have sameId := of_decide_eq_true (Bool.and_eq_true_iff.mp named).2
      obtain ⟨before, after, split⟩ := List.append_of_mem member
      refine .inr ⟨rfl, before, route, after, split, sameNetwork, sameId, ?_⟩
      have kept : ∀ other ∈ before ++ after, !(other.network = network && other.id = id) := by
        intro other isOther
        have otherId := numbered.id_ne_of_split split other isOther
        rw [sameId] at otherId
        simp [otherId]
      unfold Table.withdraw
      rw [split, List.filter_append, List.filter_cons_of_neg (by simp [sameNetwork, sameId]),
        ← List.filter_append, List.filter_eq_self.mpr kept]

/-- A withdrawal takes one route, if there is such a route. -/
theorem Numbered.size_withdraw {table : Table} (numbered : table.Numbered) (network : Network)
    (id : Nat) :
    (table.withdraw network id).size + (if table.has network id then 1 else 0) = table.size := by
  rcases numbered.withdraw_cases network id with
    ⟨absent, unchanged⟩ | ⟨present, before, route, after, split, -, -, withdrawn⟩
  · rw [absent, unchanged]
    rfl
  · rw [present, withdrawn, if_pos rfl, size, size, split]
    simp only [List.length_append, List.length_cons]
    omega

/-- No change takes a number back. -/
theorem nextId_le_change (table : Table) (change : RouteChange) :
    table.nextId ≤ (table.change change).nextId := by
  cases change with
  | announce network attributes source => exact Nat.le_succ _
  | withdraw network id => exact Nat.le_refl _

/-- Each announcement takes one number. -/
theorem nextId_apply (table : Table) (changes : List RouteChange) :
    (table.apply changes).1.nextId = table.nextId + changes.countP RouteChange.announces := by
  induction changes generalizing table with
  | nil => rfl
  | cons change rest inductionHypothesis =>
      rw [apply_cons, inductionHypothesis]
      cases change with
      | announce network attributes source =>
          rw [List.countP_cons_of_pos rfl]
          change table.nextId + 1 + _ = _
          omega
      | withdraw network id =>
          rw [List.countP_cons_of_neg (by simp [RouteChange.announces])]
          rfl

/-- A change brings in no route with a number that has been given out. -/
theorem mem_routes_change {table : Table} {change : RouteChange} {route : Route}
    (given : route.id < table.nextId) (member : route ∈ (table.change change).routes) :
    route ∈ table.routes := by
  cases change with
  | announce network attributes source =>
      rcases List.mem_append.mp member with old | new
      · exact old
      · rw [List.mem_singleton.mp new] at given
        exact absurd given (Nat.lt_irrefl _)
  | withdraw network id => exact (List.mem_filter.mp member).1

/-- A number that has been given out is not given to a later route. -/
theorem mem_routes_apply {table : Table} {changes : List RouteChange} {route : Route}
    (given : route.id < table.nextId) (member : route ∈ (table.apply changes).1.routes) :
    route ∈ table.routes := by
  induction changes generalizing table with
  | nil => exact member
  | cons change rest inductionHypothesis =>
      have later := Nat.lt_of_lt_of_le given (table.nextId_le_change change)
      exact mem_routes_change given (inductionHypothesis later member)

/-- An announcement counts as a change. -/
theorem count_apply_announce (table : Table) (network : Network) (attributes : Attributes)
    (source : Source) (rest : List RouteChange) :
    (table.apply (.announce network attributes source :: rest)).2 =
      ((table.announce network attributes source).apply rest).2 + 1 := rfl

theorem count_apply_withdraw (table : Table) (network : Network) (id : Nat)
    (rest : List RouteChange) :
    (table.apply (.withdraw network id :: rest)).2 =
      ((table.withdraw network id).apply rest).2 + if table.has network id then 1 else 0 := by
  change (if table.has network id then _ + 1 else _) = _
  split <;> rfl

/-- The routes that are announced in the course of some changes. -/
def arrivals (table : Table) : List RouteChange → List Route
  | [] => []
  | .announce network attributes source :: rest =>
      table.announced network attributes source ::
        (table.announce network attributes source).arrivals rest
  | .withdraw network id :: rest => (table.withdraw network id).arrivals rest

/-- The routes that were there or arrived and that are missing at the end. -/
def departures (table : Table) (changes : List RouteChange) : List Route :=
  (table.routes ++ table.arrivals changes).filter fun route =>
    route ∉ (table.apply changes).1.routes

@[simp] theorem arrivals_announce (table : Table) (network : Network) (attributes : Attributes)
    (source : Source) (rest : List RouteChange) :
    table.arrivals (.announce network attributes source :: rest) =
      table.announced network attributes source ::
        (table.announce network attributes source).arrivals rest := rfl

@[simp] theorem arrivals_withdraw (table : Table) (network : Network) (id : Nat)
    (rest : List RouteChange) :
    table.arrivals (.withdraw network id :: rest) =
      (table.withdraw network id).arrivals rest := rfl

/-- As many routes arrive as are announced. -/
theorem length_arrivals (table : Table) (changes : List RouteChange) :
    (table.arrivals changes).length = changes.countP RouteChange.announces := by
  induction changes generalizing table with
  | nil => rfl
  | cons change rest inductionHypothesis =>
      cases change with
      | announce network attributes source =>
          rw [List.countP_cons_of_pos rfl, ← inductionHypothesis, arrivals_announce,
            List.length_cons]
      | withdraw network id =>
          rw [List.countP_cons_of_neg (by simp [RouteChange.announces]), ← inductionHypothesis,
            arrivals_withdraw]

/-- Announcements keep all routes, and each of them counts and arrives behind the others. -/
theorem apply_announcements (table : Table) {changes : List RouteChange}
    (announce : ∀ change ∈ changes, change.announces) :
    (table.apply changes).1.routes = table.routes ++ table.arrivals changes ∧
      (table.apply changes).2 = (table.arrivals changes).length := by
  induction changes generalizing table with
  | nil => exact ⟨(List.append_nil _).symm, rfl⟩
  | cons change rest inductionHypothesis =>
      cases change with
      | announce network attributes source =>
          obtain ⟨routes, counted⟩ := inductionHypothesis
            (table.announce network attributes source)
            fun change member => announce change (List.mem_cons_of_mem _ member)
          constructor
          · rw [apply_cons, arrivals_announce]
            exact routes.trans (List.append_cons ..).symm
          · exact congrArg (· + 1) counted
      | withdraw network id => cases announce _ List.mem_cons_self

/-- An announced route departs like any other one. -/
theorem departures_announce (table : Table) (network : Network) (attributes : Attributes)
    (source : Source) (rest : List RouteChange) :
    table.departures (.announce network attributes source :: rest) =
      (table.announce network attributes source).departures rest := by
  have moved : table.routes ++ table.arrivals (.announce network attributes source :: rest) =
      (table.announce network attributes source).routes ++
        (table.announce network attributes source).arrivals rest :=
    List.append_cons ..
  rw [departures, departures, apply_cons, moved]
  rfl

/-- The route that a withdrawal takes departs before the others. -/
theorem Numbered.length_departures_withdraw {table : Table} (numbered : table.Numbered)
    (network : Network) (id : Nat) (rest : List RouteChange) :
    (table.departures (.withdraw network id :: rest)).length =
      ((table.withdraw network id).departures rest).length +
        if table.has network id then 1 else 0 := by
  rw [departures, departures, apply_cons, arrivals_withdraw]
  change (List.filter (fun route =>
    route ∉ ((table.withdraw network id).apply rest).1.routes) _).length = _
  rcases numbered.withdraw_cases network id with
    ⟨absent, unchanged⟩ | ⟨present, before, route, after, split, -, -, withdrawn⟩
  · rw [unchanged, absent]
    rfl
  · have remaining : (table.withdraw network id).routes = before ++ after := by rw [withdrawn]
    -- The number of the route has been given out, so that no later route can stand for it.
    have departed : route ∉ ((table.withdraw network id).apply rest).1.routes := by
      intro stays
      have member : route ∈ table.routes := by simp [split]
      have wasKept : route ∈ (table.withdraw network id).routes :=
        mem_routes_apply (numbered.below route member) stays
      rw [remaining] at wasKept
      exact numbered.id_ne_of_split split route wasKept rfl
    rw [present, if_pos rfl, remaining, split]
    simp only [List.filter_append, List.length_append]
    rw [List.filter_cons_of_pos (by simp [departed]), List.length_cons]
    omega

/-- The count is that of arrivals and departures, and the size changes by their difference. -/
theorem Numbered.apply_balances {table : Table} (numbered : table.Numbered)
    (changes : List RouteChange) :
    (table.apply changes).2 = (table.arrivals changes).length +
        (table.departures changes).length ∧
      (table.apply changes).1.size + (table.departures changes).length =
        table.size + (table.arrivals changes).length := by
  induction changes generalizing table with
  | nil =>
      have noDepartures : table.departures [] = [] :=
        List.filter_eq_nil_iff.mpr fun route member missing =>
          of_decide_eq_true missing (List.append_nil table.routes ▸ member)
      rw [noDepartures]
      exact ⟨rfl, rfl⟩
  | cons change rest inductionHypothesis =>
      cases change with
      | announce network attributes source =>
          obtain ⟨counted, sized⟩ :=
            inductionHypothesis (numbered.announce network attributes source)
          have grown : (table.announce network attributes source).size = table.size + 1 :=
            List.length_append
          rw [departures_announce, count_apply_announce, apply_cons, arrivals_announce,
            List.length_cons]
          change _ ∧ ((table.announce network attributes source).apply rest).1.size + _ = _
          omega
      | withdraw network id =>
          obtain ⟨counted, sized⟩ := inductionHypothesis (numbered.withdraw network id)
          have shrunk := numbered.size_withdraw network id
          rw [numbered.length_departures_withdraw, count_apply_withdraw, apply_cons,
            arrivals_withdraw]
          change _ ∧ ((table.withdraw network id).apply rest).1.size + _ = _
          omega

/-- Nothing arrives by withdrawals. -/
theorem arrivals_withdrawals (table : Table) {changes : List RouteChange}
    (withdraw : ∀ change ∈ changes, ∃ network id, change = .withdraw network id) :
    table.arrivals changes = [] := by
  apply List.eq_nil_of_length_eq_zero
  rw [length_arrivals, List.countP_eq_zero]
  intro change member
  obtain ⟨network, id, rfl⟩ := withdraw change member
  simp [RouteChange.announces]

end Table

end ContactPlan
