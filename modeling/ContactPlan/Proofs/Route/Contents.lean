import ContactPlan.Proofs.Route.Change
import Mathlib.Data.List.Perm.Basic

namespace ContactPlan

/-- An address of one family is never as low as one of the other. -/
theorem Address.eq_of_rank_eq {left right : Address} (equal : left.rank = right.rank) :
    left = right := by
  have families : UInt32.size ≤ Nat.pow 2 128 := by decide
  match left, right with
  | .v4 ⟨left⟩, .v4 ⟨right⟩ =>
      have sameBits : left = right := UInt32.toNat_inj.mp equal
      rw [sameBits]
  | .v6 ⟨left⟩, .v6 ⟨right⟩ =>
      have sameBits : left = right := BitVec.eq_of_toNat_eq (Nat.add_left_cancel equal)
      rw [sameBits]
  | .v4 ⟨left⟩, .v6 ⟨right⟩ =>
      have bound := left.toNat_lt_size
      simp only [rank] at equal
      omega
  | .v6 ⟨left⟩, .v4 ⟨right⟩ =>
      have bound := right.toNat_lt_size
      simp only [rank] at equal
      omega

namespace Network

/-- A network of either family has a length of one byte. -/
theorem length_lt (network : Network) : network.length < 256 := by
  have within := network.within
  have narrow : network.address.width ≤ 128 := by
    cases network.address <;> simp [Address.width]
  omega

/-- The rank tells a network. -/
theorem eq_of_rank_eq {left right : Network} (equal : left.rank = right.rank) : left = right := by
  have leftShort := left.length_lt
  have rightShort := right.length_lt
  obtain ⟨leftAddress, leftLength, _⟩ := left
  obtain ⟨rightAddress, rightLength, _⟩ := right
  simp only [rank] at equal leftShort rightShort
  have sameAddress : leftAddress = rightAddress := Address.eq_of_rank_eq (by omega)
  have sameLength : leftLength = rightLength := by
    rw [sameAddress] at equal
    omega
  subst sameAddress sameLength
  rfl

/-- Networks ascend when each comes before all that follow it. -/
def Ascending (networks : List Network) : Prop :=
  networks.Pairwise fun left right => left.rank < right.rank

/-- A network is inserted in ascending order. -/
theorem Ascending.insertInto {networks : List Network} (ascending : Ascending networks)
    (network : Network) : Ascending (network.insertInto networks) := by
  induction networks with
  | nil => simp [Network.insertInto, Ascending]
  | cons head rest inductionHypothesis =>
      obtain ⟨headBelow, restAscending⟩ := List.pairwise_cons.mp ascending
      unfold Network.insertInto
      split
      next below =>
        rw [Ascending, List.pairwise_cons]
        refine ⟨fun other member => ?_, ascending⟩
        rcases List.mem_cons.mp member with rfl | inRest
        · exact below
        · exact Nat.lt_trans below (headBelow other inRest)
      next notBelow =>
        split
        · exact ascending
        next different =>
          rw [Ascending, List.pairwise_cons]
          refine ⟨fun other member => ?_, inductionHypothesis restAscending⟩
          rcases mem_insertInto.mp member with rfl | inRest
          · have unequal : other.rank ≠ head.rank := fun equal => different (eq_of_rank_eq equal)
            omega
          · exact headBelow other inRest

end Network

/-- A table lists none of its networks twice. -/
theorem Table.nodup_networks (table : Table) : table.networks.Nodup := by
  have ascending : Network.Ascending table.networks := by
    unfold networks
    induction table.routes with
    | nil => exact List.Pairwise.nil
    | cons route rest inductionHypothesis => exact inductionHypothesis.insertInto route.network
  apply ascending.imp
  intro left right below equal
  rw [equal] at below
  exact Nat.lt_irrefl _ below

/-- A network that is not listed has no route. -/
theorem Table.routesTo_eq_nil {table : Table} {network : Network}
    (absent : network ∉ table.networks) : table.routesTo network = [] := by
  apply List.filter_eq_nil_iff.mpr
  intro route member isTo
  exact absent (Table.mem_networks.mpr ⟨route, member, of_decide_eq_true isTo⟩)

namespace Route

/-- A route has the same content under another number. -/
def renumber (numbers : Nat → Nat) (route : Route) : Route := { route with id := numbers route.id }

/-- All of a route but its number. -/
def content (route : Route) : Network × Attributes × Source :=
  (route.network, route.attributes, route.source)

/-- Routes are renumbered in their order, and no two of them get to share a number. -/
def Renumbered (left right : List Route) : Prop :=
  ∃ numbers : Nat → Nat, right = left.map (renumber numbers) ∧
    ∀ route ∈ left, ∀ other ∈ left, numbers route.id = numbers other.id → route.id = other.id

/-- Shuffled routes are renumbered and stand in any order. -/
def Shuffled (left right : List Route) : Prop :=
  ∃ renumbered, Renumbered left renumbered ∧ renumbered.Perm right

/-- Routes with numbers of their own are renumbered when they have the same contents. -/
theorem renumbered_of_contents {left right : List Route} (leftDistinct : (left.map id).Nodup)
    (rightDistinct : (right.map id).Nodup) (contents : left.map content = right.map content) :
    Renumbered left right := by
  obtain ⟨numbers, rfl⟩ : ∃ numbers, right = left.map (renumber numbers) := by
    clear rightDistinct
    induction left generalizing right with
    | nil => exact ⟨fun number => number, List.map_eq_nil_iff.mp contents.symm⟩
    | cons head rest inductionHypothesis =>
        obtain ⟨first, others, rfl, sameContent, sameContents⟩ :=
          List.map_eq_cons_iff.mp contents.symm
        obtain ⟨headFresh, restDistinct⟩ := List.nodup_cons.mp leftDistinct
        obtain ⟨numbers, rfl⟩ := inductionHypothesis restDistinct sameContents.symm
        refine ⟨fun number => if number = head.id then first.id else numbers number, ?_⟩
        rw [List.map_cons]
        congr 1
        · cases first
          cases sameContent
          simp [renumber]
        · apply List.map_congr_left
          intro route member
          have otherId : route.id ≠ head.id :=
            fun equal => headFresh (equal ▸ List.mem_map_of_mem member)
          simp [renumber, otherId]
  rw [List.map_map] at rightDistinct
  refine ⟨numbers, rfl, fun route isRoute other isOther sameNumber => ?_⟩
  rw [List.inj_on_of_nodup_map rightDistinct isRoute isOther sameNumber]

/-- They are shuffled when their contents stand in another order. -/
theorem shuffled_of_contents {left right : List Route} (leftDistinct : (left.map id).Nodup)
    (rightDistinct : (right.map id).Nodup)
    (contents : (left.map content).Perm (right.map content)) : Shuffled left right := by
  have own : List.Forall₂ (fun known route => known = content route) (right.map content) right :=
    List.forall₂_map_left_iff.mpr (List.forall₂_same.mpr fun _ _ => rfl)
  obtain ⟨middle, sameContents, shuffled⟩ := List.perm_comp_forall₂ contents own
  have middleDistinct : (middle.map id).Nodup :=
    (shuffled.map id).nodup_iff.mpr rightDistinct
  refine ⟨middle, renumbered_of_contents leftDistinct middleDistinct ?_, shuffled⟩
  rw [← List.forall₂_eq_eq_eq, List.forall₂_map_right_iff]
  exact sameContents

/-- The contents of routes do not depend on their numbers. -/
theorem Renumbered.contents_eq {left right : List Route} (renumbered : Renumbered left right) :
    left.map content = right.map content := by
  obtain ⟨numbers, rfl, -⟩ := renumbered
  rw [List.map_map]
  rfl

end Route

namespace RouteChange

def network : RouteChange → Network
  | .announce network _ _ => network
  | .withdraw network _ => network

/-- The content of the route that an announcement adds. -/
def content? : RouteChange → Option (Network × Attributes × Source)
  | .announce network attributes source => some (network, attributes, source)
  | .withdraw _ _ => none

end RouteChange

/-- The routes to a network are followed by those that are announced for it, in their order. -/
theorem Table.contents_apply_announcements (table : Table) (network : Network)
    {changes : List RouteChange} (announce : ∀ change ∈ changes, change.content?.isSome) :
    ((table.apply changes).1.routesTo network).map Route.content =
      (table.routesTo network).map Route.content ++
        (changes.filter fun change => change.network = network).filterMap RouteChange.content? := by
  induction changes generalizing table with
  | nil => simp
  | cons change rest inductionHypothesis =>
      cases change with
      | withdraw other id => cases announce _ List.mem_cons_self
      | announce other attributes source =>
          have later := inductionHypothesis (table.announce other attributes source)
            fun change member => announce change (List.mem_cons_of_mem _ member)
          have added : (table.announce other attributes source).routesTo network =
              table.routesTo network ++
                [table.announced other attributes source].filter fun route =>
                  route.network = network := List.filter_append ..
          rw [apply_cons]
          refine later.trans ?_
          rw [added, List.map_append, List.append_assoc]
          congr 1
          by_cases isTo : other = network
          · simp [isTo, announced, Route.content, RouteChange.network, RouteChange.content?]
          · simp [isTo, announced, RouteChange.network]

end ContactPlan
