import ContactPlan.Proofs.Route.Contents
import ContactPlan.Proofs.Route.Course
import Mathlib.Algebra.BigOperators.Group.Finset.Basic
import Mathlib.Data.Finmap

/-
This file keeps the routes of a table in one list for each network.
No list is empty, and both sides answer alike after any operations.
-/

namespace ContactPlan

/-- An operation changes the routes and has an answer. -/
inductive Operation where
  | announce (network : Network) (attributes : Attributes) (source : Source)
  | configure (network : Network) (attributes : Attributes)
  | withdraw (network : Network) (id : Nat)
  | apply (changes : List RouteChange)

/-- What a caller gets to know of an operation. -/
inductive Answer where
  | added (route : Route)
  | withdrawn (found : Bool)
  | changed (count : Nat)

namespace Table

/-- Static routes are announced like all others. -/
def perform (table : Table) : Operation → Table × Answer
  | .announce network attributes source =>
      (table.announce network attributes source, .added (table.announced network attributes source))
  | .configure network attributes =>
      (table.announce network attributes .configured,
        .added (table.announced network attributes .configured))
  | .withdraw network id => (table.withdraw network id, .withdrawn (table.has network id))
  | .apply changes => ((table.apply changes).1, .changed (table.apply changes).2)

def performAll (table : Table) : List Operation → Table × List Answer
  | [] => (table, [])
  | operation :: rest =>
      let (next, answer) := table.perform operation
      let (final, answers) := next.performAll rest
      (final, answer :: answers)

end Table

/-- A network with a route has a list, which takes new routes at its end. -/
structure Filing where
  lists : Finmap fun _ : Network => List Route
  nextId : Nat

namespace Filing

def empty : Filing := ⟨∅, 1⟩

def routesTo (filing : Filing) (network : Network) : List Route :=
  (filing.lists.lookup network).getD []

/-- The routes are counted list by list. -/
def size (filing : Filing) : Nat :=
  filing.lists.keys.sum fun network => (filing.routesTo network).length

def isEmpty (filing : Filing) : Bool := filing.lists = ∅

def announced (filing : Filing) (network : Network) (attributes : Attributes) (source : Source) :
    Route :=
  ⟨filing.nextId, network, attributes, source⟩

/-- A list is created with its first route. -/
def announce (filing : Filing) (network : Network) (attributes : Attributes) (source : Source) :
    Filing :=
  { lists := filing.lists.insert network
      (filing.routesTo network ++ [filing.announced network attributes source])
    nextId := filing.nextId + 1 }

/-- The list of a network is removed together with its last route. -/
def withdraw (filing : Filing) (network : Network) (id : Nat) : Filing × Bool :=
  match filing.lists.lookup network with
  | none => (filing, false)
  | some routes =>
      let kept := routes.filter fun route => route.id ≠ id
      ({ filing with
          lists := if kept = [] then filing.lists.erase network
            else filing.lists.insert network kept },
        kept.length ≠ routes.length)

def apply (filing : Filing) : List RouteChange → Filing × Nat
  | [] => (filing, 0)
  | .announce network attributes source :: rest =>
      let (final, count) := (filing.announce network attributes source).apply rest
      (final, count + 1)
  | .withdraw network id :: rest =>
      let (next, found) := filing.withdraw network id
      let (final, count) := next.apply rest
      (final, if found then count + 1 else count)

def perform (filing : Filing) : Operation → Filing × Answer
  | .announce network attributes source =>
      (filing.announce network attributes source,
        .added (filing.announced network attributes source))
  | .configure network attributes =>
      (filing.announce network attributes .configured,
        .added (filing.announced network attributes .configured))
  | .withdraw network id =>
      let (next, found) := filing.withdraw network id
      (next, .withdrawn found)
  | .apply changes =>
      let (final, count) := filing.apply changes
      (final, .changed count)

def performAll (filing : Filing) : List Operation → Filing × List Answer
  | [] => (filing, [])
  | operation :: rest =>
      let (next, answer) := filing.perform operation
      let (final, answers) := next.performAll rest
      (final, answer :: answers)

end Filing

namespace Table

/-- An announced route stands behind the others to its network. -/
theorem routesTo_announce (table : Table) (network other : Network) (attributes : Attributes)
    (source : Source) :
    (table.announce network attributes source).routesTo other = table.routesTo other ++
      if network = other then [table.announced network attributes source] else [] := by
  change (table.routes ++ [table.announced network attributes source]).filter _ = _
  rw [List.filter_append]
  congr 1
  by_cases isTo : network = other <;> simp [announced, isTo]

/-- A withdrawn number is missing among the routes to its network. -/
theorem routesTo_withdraw (table : Table) (network : Network) (id : Nat) :
    (table.withdraw network id).routesTo network =
      (table.routesTo network).filter fun route => route.id ≠ id := by
  unfold routesTo withdraw
  rw [List.filter_filter, List.filter_filter]
  apply List.filter_congr
  intro route _
  by_cases isTo : route.network = network <;> simp [isTo]

theorem routesTo_withdraw_of_ne (table : Table) {network other : Network} (id : Nat)
    (different : other ≠ network) :
    (table.withdraw network id).routesTo other = table.routesTo other := by
  unfold routesTo withdraw
  rw [List.filter_filter]
  apply List.filter_congr
  intro route _
  by_cases isTo : route.network = other <;> simp [isTo, different]

/-- A withdrawal finds a route when the list of its network gets shorter. -/
theorem has_eq (table : Table) (network : Network) (id : Nat) :
    table.has network id = decide (((table.routesTo network).filter fun route =>
      route.id ≠ id).length ≠ (table.routesTo network).length) := by
  apply Bool.eq_iff_iff.mpr
  rw [has_iff, decide_eq_true_iff, Ne, List.length_filter_eq_length_iff]
  simp

end Table

/-- A filing files a table when each list holds the routes to its network. -/
structure Filing.Files (filing : Filing) (table : Table) : Prop where
  lists : ∀ network, filing.lists.lookup network =
    if table.routesTo network = [] then none else some (table.routesTo network)
  nextId : filing.nextId = table.nextId

namespace Filing.Files

theorem start : Filing.empty.Files Table.empty :=
  ⟨fun network => Finmap.lookup_empty network, rfl⟩

section

variable {filing : Filing} {table : Table} (files : filing.Files table)
include files

/-- Both sides have the same routes to a network. -/
theorem routesTo_eq (network : Network) : filing.routesTo network = table.routesTo network := by
  unfold Filing.routesTo
  rw [files.lists]
  split
  next isEmpty => exact isEmpty.symm
  · rfl

/-- A network has a list when it is listed. -/
theorem mem_lists {network : Network} : network ∈ filing.lists ↔ network ∈ table.networks := by
  rw [← Finmap.lookup_isSome, files.lists]
  constructor
  · intro listed
    by_contra absent
    rw [if_pos (Table.routesTo_eq_nil absent)] at listed
    cases listed
  · intro member
    obtain ⟨route, inTable, isTo⟩ := Table.mem_networks.mp member
    have filed : route ∈ table.routesTo network :=
      List.mem_filter.mpr ⟨inTable, decide_eq_true isTo⟩
    rw [if_neg (List.ne_nil_of_mem filed)]
    rfl

/-- The networks with a list are the networks of the table. -/
theorem keys_eq : filing.lists.keys = table.networks.toFinset := by
  ext network
  rw [Finmap.mem_keys, files.mem_lists, List.mem_toFinset]

theorem announced_eq (network : Network) (attributes : Attributes) (source : Source) :
    filing.announced network attributes source = table.announced network attributes source := by
  unfold Filing.announced Table.announced
  rw [files.nextId]

/-- A route is filed at the end of the list of its network. -/
theorem announce (network : Network) (attributes : Attributes) (source : Source) :
    (filing.announce network attributes source).Files
      (table.announce network attributes source) := by
  constructor
  · intro other
    rw [Table.routesTo_announce]
    unfold Filing.announce
    by_cases isTo : network = other
    · subst isTo
      rw [Finmap.lookup_insert, if_pos rfl, if_neg (by simp), files.routesTo_eq,
        files.announced_eq]
    · rw [Finmap.lookup_insert_of_ne _ (Ne.symm isTo), files.lists, if_neg isTo, List.append_nil]
  · exact congrArg (· + 1) files.nextId

/-- A route is taken out of its list, and its list goes with the last route. -/
theorem withdraw (network : Network) (id : Nat) :
    (filing.withdraw network id).1.Files (table.withdraw network id) ∧
      (filing.withdraw network id).2 = table.has network id := by
  rw [Table.has_eq]
  by_cases isEmpty : table.routesTo network = []
  · have absent := files.lists network
    rw [if_pos isEmpty] at absent
    have unchanged (other : Network) :
        (table.withdraw network id).routesTo other = table.routesTo other := by
      by_cases same : other = network
      · rw [same, Table.routesTo_withdraw, isEmpty]
        rfl
      · exact table.routesTo_withdraw_of_ne id same
    unfold Filing.withdraw
    rw [absent, isEmpty]
    refine ⟨⟨fun other => ?_, files.nextId⟩, rfl⟩
    rw [unchanged]
    exact files.lists other
  · have present := files.lists network
    rw [if_neg isEmpty] at present
    unfold Filing.withdraw
    rw [present]
    refine ⟨⟨fun other => ?_, files.nextId⟩, rfl⟩
    by_cases same : other = network
    · subst same
      rw [Table.routesTo_withdraw]
      by_cases last : ((table.routesTo other).filter fun route => route.id ≠ id) = []
      · simp only [if_pos last]
        exact Finmap.lookup_erase other _
      · simp only [if_neg last]
        exact Finmap.lookup_insert _
    · rw [table.routesTo_withdraw_of_ne id same, ← files.lists]
      dsimp only
      split
      · exact Finmap.lookup_erase_ne same
      · exact Finmap.lookup_insert_of_ne _ same

end

/-- The lists follow the table through all changes, and both sides count alike. -/
theorem apply {filing : Filing} {table : Table} (files : filing.Files table)
    (changes : List RouteChange) :
    (filing.apply changes).1.Files (table.apply changes).1 ∧
      (filing.apply changes).2 = (table.apply changes).2 := by
  induction changes generalizing filing table with
  | nil => exact ⟨files, rfl⟩
  | cons change rest inductionHypothesis =>
      cases change with
      | announce network attributes source =>
          obtain ⟨filed, counted⟩ := inductionHypothesis (files.announce network attributes source)
          exact ⟨filed, congrArg (· + 1) counted⟩
      | withdraw network id =>
          obtain ⟨next, answered⟩ := files.withdraw network id
          obtain ⟨filed, counted⟩ := inductionHypothesis next
          refine ⟨filed, ?_⟩
          change (if (filing.withdraw network id).2 then
              ((filing.withdraw network id).1.apply rest).2 + 1
              else ((filing.withdraw network id).1.apply rest).2) = _
          rw [answered, counted]
          rfl

/-- The lists follow the table through an operation, and both sides answer alike. -/
theorem perform {filing : Filing} {table : Table} (files : filing.Files table)
    (operation : Operation) :
    (filing.perform operation).1.Files (table.perform operation).1 ∧
      (filing.perform operation).2 = (table.perform operation).2 := by
  cases operation with
  | announce network attributes source =>
      exact ⟨files.announce network attributes source,
        congrArg Answer.added (files.announced_eq network attributes source)⟩
  | configure network attributes =>
      exact ⟨files.announce network attributes .configured,
        congrArg Answer.added (files.announced_eq network attributes .configured)⟩
  | withdraw network id =>
      obtain ⟨filed, answered⟩ := files.withdraw network id
      exact ⟨filed, congrArg Answer.withdrawn answered⟩
  | apply changes =>
      obtain ⟨filed, counted⟩ := files.apply changes
      exact ⟨filed, congrArg Answer.changed counted⟩

/-- Both sides answer alike, one operation after the other. -/
theorem performAll {filing : Filing} {table : Table} (files : filing.Files table)
    (operations : List Operation) :
    (filing.performAll operations).1.Files (table.performAll operations).1 ∧
      (filing.performAll operations).2 = (table.performAll operations).2 := by
  induction operations generalizing filing table with
  | nil => exact ⟨files, rfl⟩
  | cons operation rest inductionHypothesis =>
      obtain ⟨next, answered⟩ := files.perform operation
      obtain ⟨filed, answers⟩ := inductionHypothesis next
      exact ⟨filed, congrArg₂ List.cons answered answers⟩

end Filing.Files

end ContactPlan
