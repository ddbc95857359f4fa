import ContactPlan.Proofs.Link.Closings
import ContactPlan.Proofs.Link.Run
import ContactPlan.Proofs.Server.Run

namespace ContactPlan

/-- Openings and closings of every contact take turns, and an opening comes first. -/
def Event.TakeTurns (history : List Event) : Prop :=
  ∀ event ∈ history,
    let own := history.filter fun other => other.contact.Same event.contact
    own.map Event.boundary = (List.range own.length).map Boundary.inTurn

instance (history : List Event) : Decidable (Event.TakeTurns history) :=
  inferInstanceAs (Decidable (∀ event ∈ history, _))

namespace Contact

/-- Parallel contacts join the same two systems. -/
def Parallel (left right : Contact) : Prop := left.joins right.first.asn right.second.asn

instance (left right : Contact) : Decidable (left.Parallel right) :=
  inferInstanceAs (Decidable (_ = true))

/-- Parallel contacts join the same systems. -/
theorem Parallel.joins_eq {left right : Contact} (parallel : left.Parallel right) :
    left.joins = right.joins := by
  funext first second
  apply Bool.eq_iff_iff.mpr
  rw [joins_iff, joins_iff]
  rcases joins_iff.mp parallel with ⟨firstEqual, secondEqual⟩ | ⟨firstEqual, secondEqual⟩
  · rw [firstEqual, secondEqual]
  · rw [firstEqual, secondEqual]
    exact Or.comm

theorem parallel_of_joins {left right : Contact} {first second : Asn}
    (joinsLeft : left.joins first second) (joinsRight : right.joins first second) :
    left.Parallel right := by
  unfold Parallel
  rcases joins_iff.mp joinsRight with ⟨rfl, rfl⟩ | ⟨rfl, rfl⟩
  · exact joinsLeft
  · rw [joins_comm]
    exact joinsLeft

end Contact

namespace Router

/-- A run may go on where another one has ended. -/
theorem Run.append {router : Router} {initial middle final : Table} {first second : List Event}
    (earlier : router.Run initial first middle) (later : router.Run middle second final) :
    router.Run initial (first ++ second) final := by
  induction later with
  | start =>
      rw [List.append_nil]
      exact earlier
  | handle _ event networks walked inductionHypothesis =>
      rw [← List.append_assoc]
      exact inductionHypothesis.handle event networks walked

/-- A table stays numbered while contacts open and close. -/
theorem Run.numbered {router : Router} {initial table : Table} {history : List Event}
    (numbered : initial.Numbered) (run : router.Run initial history table) : table.Numbered := by
  induction run with
  | start => exact numbered
  | handle _ event networks _ inductionHypothesis => exact inductionHypothesis.apply _

/-- Whatever has opened before, a closing takes all routes that cross its contact and no others.
Until a parallel contact opens, no route crosses the link, and the closings of the other parallel
contacts change nothing.
The run has to start from a numbered table, since its openings give out the numbers after the next
one. -/
theorem Run.closing_ends_link {router : Router} {initial table : Table} {history : List Event}
    (numbered : initial.Numbered) (run : router.Run initial history table) (contact : Contact)
    {networks : List Network} (walked : networks.Perm table.networks) :
    let closed := (table.apply (router.closingsAlong contact table networks)).1
    closed.routes =
        table.routes.filter (fun route => !contact.crossedBy router.own route.path) ∧
      (table.apply (router.closingsAlong contact table networks)).2 =
        table.routes.countP (fun route => contact.crossedBy router.own route.path) ∧
      ∀ later final, router.Run closed later final →
        (∀ event ∈ later, event.boundary = .opening → ¬event.contact.Parallel contact) →
        ∀ other : Contact, other.Parallel contact →
          (∀ route ∈ final.routes, ¬other.crossedBy router.own route.path) ∧
            ∀ walk, final.apply (router.closingsAlong other final walk) = (final, 0) := by
  intro closed
  have listed (route : Route) (inTable : route ∈ table.routes) : route.network ∈ networks :=
    walked.mem_iff.mpr (Table.mem_networks.mpr ⟨route, inTable, rfl⟩)
  have current : table.Numbered := run.numbered numbered
  refine ⟨router.routes_closingsAlong contact current.distinct listed,
    router.count_closingsAlong contact current listed, ?_⟩
  intro later final continued notOpened other parallel
  have whole := (run.handle ⟨contact, .closing⟩ networks walked).append continued
  have unused : ∀ route ∈ final.routes, ¬other.crossedBy router.own route.path := by
    intro route member crosses
    obtain ⟨first, second, joins, hops⟩ := Contact.adjacentIn_iff.mp crosses
    rw [parallel.joins_eq] at joins
    have down : Event.LinkDown ((history ++ [⟨contact, .closing⟩]) ++ later) first second := by
      refine ⟨history, contact, later, by simp, joins, ?_⟩
      intro event isLater opens eventJoins
      exact notOpened event isLater opens (Contact.parallel_of_joins eventJoins joins)
    exact whole.not_hopsTo_of_linkDown down route member hops
  exact ⟨unused, apply_closingsAlong_of_unused unused⟩

/-- The router has this contact at first. -/
def shortContact : Contact := ringContact ⟨1, ⟨11⟩⟩ ⟨3, ⟨13⟩⟩

/-- The same systems meet through another gateway, and they still do when the first contact ends. -/
def longContact : Contact := { ringContact ⟨3, ⟨23⟩⟩ ⟨1, ⟨11⟩⟩ with start := 2000 }

def overlapHistory : List Event := [⟨shortContact, .opening⟩, ⟨longContact, .opening⟩]

def overlapTable : Table :=
  (ring.handle ⟨longContact, .opening⟩ (ring.handle ⟨shortContact, .opening⟩ ringTable).1).1

/-- Both contacts have opened. -/
theorem run_overlapHistory : ring.Run ringTable overlapHistory overlapTable :=
  (Run.start.handled ⟨shortContact, .opening⟩).handled ⟨longContact, .opening⟩

/-- Two other systems meet later. -/
def laterEvent : Event := ⟨ringContact ⟨3, ⟨23⟩⟩ ⟨6, ⟨16⟩⟩, .opening⟩

/-- After the first contact has closed, the closing of the longer one finds no route over the link,
although it has been active all the time. -/
theorem Run.closing_ends_link_overlapping :
    let closed := (ring.handle ⟨shortContact, .closing⟩ overlapTable).1
    let final := (ring.handle laterEvent closed).1
    ringTable.Numbered ∧
      ring.Run ringTable overlapHistory overlapTable ∧
      closed.size + 1 = overlapTable.size ∧
      ring.Run closed [laterEvent] final ∧
      longContact.Parallel shortContact ∧
      longContact.ActiveIn (overlapHistory ++ [⟨shortContact, .closing⟩, laterEvent]) ∧
      (∀ route ∈ final.routes, ¬longContact.crossedBy ring.own route.path) ∧
      ring.handle ⟨longContact, .closing⟩ final = (final, 0) := by
  intro closed final
  have numbered : ringTable.Numbered := ⟨by decide, by decide⟩
  have continued : ring.Run closed [laterEvent] final := Run.start.handled laterEvent
  have ends := run_overlapHistory.closing_ends_link numbered shortContact (.refl _)
  obtain ⟨noRoute, noChange⟩ := ends.2.2 _ _ continued (by decide) longContact (by decide)
  exact ⟨numbered, run_overlapHistory, by decide, continued, by decide,
    ⟨[⟨shortContact, .opening⟩], _, rfl, by decide⟩, noRoute, noChange _⟩

/-- A closing takes a route over a link that another contact has opened and not closed. -/
theorem Run.closing_takes_parallel :
    let route := ringRoute 4 .contact [3, 4] (some (.v4 ⟨11⟩))
    ring.Run ringTable overlapHistory overlapTable ∧
      Event.TakeTurns (overlapHistory ++ [⟨shortContact, .closing⟩]) ∧
      shortContact.isValid ∧ longContact.isValid ∧ longContact.Parallel shortContact ∧
      longContact.ActiveIn (overlapHistory ++ [⟨shortContact, .closing⟩]) ∧
      route ∈ overlapTable.routes ∧ shortContact.crossedBy ring.own route.path ∧
      route ∉ (ring.handle ⟨shortContact, .closing⟩ overlapTable).1.routes :=
  ⟨run_overlapHistory, by decide, by decide, by decide, by decide,
    ⟨[⟨shortContact, .opening⟩], _, rfl, by decide⟩, by decide, by decide, by decide⟩

end Router

end ContactPlan
