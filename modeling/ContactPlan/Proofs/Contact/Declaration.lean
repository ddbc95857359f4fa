import ContactPlan.Proofs.Agenda.Tracking
import ContactPlan.Proofs.Link.Run
import ContactPlan.Proofs.Store.Ingest

namespace ContactPlan

namespace Contact

/-- Either side tells which system is opposite. -/
theorem opposite?_flip {contact : Contact} (apart : contact.first.asn ≠ contact.second.asn) :
    contact.flip.opposite? = contact.opposite? := by
  funext asn
  change (if asn = contact.second.asn then some contact.first
    else if asn = contact.first.asn then some contact.second else none) =
      if asn = contact.first.asn then some contact.second
      else if asn = contact.second.asn then some contact.first else none
  by_cases isFirst : asn = contact.first.asn
  · rw [if_neg (isFirst.trans_ne apart), if_pos isFirst, if_pos isFirst]
  · rw [if_neg isFirst, if_neg isFirst]

/-- Either side tells by which gateway a system is reached. -/
theorem gateway?_flip {contact : Contact} (apart : contact.first.asn ≠ contact.second.asn) :
    contact.flip.gateway? = contact.gateway? := by
  funext own
  change (if own = contact.second.asn then some contact.second.gateway
    else if own = contact.first.asn then some contact.first.gateway else none) =
      if own = contact.first.asn then some contact.first.gateway
      else if own = contact.second.asn then some contact.second.gateway else none
  by_cases isFirst : own = contact.first.asn
  · rw [if_neg (isFirst.trans_ne apart), if_pos isFirst, if_pos isFirst]
  · rw [if_neg isFirst, if_neg isFirst]

section

variable {left right : Contact} (same : left.Same right) (isValid : left.isValid)

include same isValid

theorem Same.opposite?_eq : left.opposite? = right.opposite? := by
  rcases same_iff.mp same with rfl | rfl
  · rfl
  · exact opposite?_flip (apart_of_isValid (right.isValid_flip ▸ isValid))

/-- Both declarations of a contact lead from a system to the same one. -/
theorem Same.otherAsn?_eq : left.otherAsn? = right.otherAsn? := by
  unfold otherAsn?
  rw [same.opposite?_eq isValid]

theorem Same.gateway?_eq : left.gateway? = right.gateway? := by
  rcases same_iff.mp same with rfl | rfl
  · rfl
  · exact gateway?_flip (apart_of_isValid (right.isValid_flip ▸ isValid))

/-- The two systems of a contact are only named in the order of the declaration when there is no
neighbor. -/
theorem Same.nextHop_ok (own : Asn) (resolver : Resolver) (neighbor : Neighbor) :
    left.nextHop own resolver = .ok neighbor ↔ right.nextHop own resolver = .ok neighbor := by
  unfold nextHop
  rw [same.gateway?_eq isValid]
  cases right.gateway? own with
  | none =>
      constructor
      · intro found
        cases found
      · intro found
        cases found
  | some gateway => exact Iff.rfl

/-- Both declarations of a contact make the same paths possible. -/
theorem Same.candidates_eq : Splice.candidates left = Splice.candidates right := by
  funext own path others
  have sameJoins (cut : Splice.Cut) : cut.join left others = cut.join right others := by
    unfold Splice.Cut.join
    rw [same.otherAsn?_eq isValid]
  unfold Splice.candidates
  simp only [same.crossedBy_eq, sameJoins]

theorem Same.nextHop?_eq (router : Router) : router.nextHop? left = router.nextHop? right := by
  funext route candidate
  unfold Router.nextHop? nextHop
  rw [same.gateway?_eq isValid]
  cases right.gateway? router.own <;> rfl

/-- An opening offers and announces the same from either side. -/
theorem Same.openingsAlong_eq (router : Router) :
    router.openingsAlong left = router.openingsAlong right := by
  have sameOffers : router.offers left = router.offers right := by
    funext routes
    unfold Router.offers Router.candidates Router.offer?
    rw [same.candidates_eq isValid, same.nextHop?_eq isValid]
  funext table networks
  unfold Router.openingsAlong
  rw [sameOffers]

end

/-- A closing withdraws the same routes from either side. -/
theorem Same.closingsAlong_eq {left right : Contact} (same : left.Same right) (router : Router) :
    router.closingsAlong left = router.closingsAlong right := by
  funext table networks
  unfold Router.closingsAlong
  rw [same.crossedBy_eq]

end Contact

/-- A contact is refused while one of its declarations is tracked. -/
theorem Agenda.registerContact?_of_tracks {agenda : Agenda} {contact : Contact}
    (tracks : agenda.tracks contact) (now : Instant) :
    agenda.registerContact? contact now = none := by
  unfold registerContact? accepts
  rw [tracks, Bool.not_true, Bool.and_false]
  rfl

namespace ContactSet

/-- A set of one contact has both of its declarations. -/
theorem contains_ofList_singleton {contact other : Contact} :
    (ofList [contact]).contains other ↔ contact.Same other := by
  rw [contains_iff]
  change (∃ member ∈ [contact], member.Same other) ↔ _
  simp only [List.mem_singleton, exists_eq_left]

end ContactSet

namespace Store

/-- A store that is there can be read. -/
theorem reads_of_load {disk : Disk} {path : String} {stored : ContactSet}
    (loads : load disk path = .ok (some stored)) : ∃ bytes, disk.read path = .ok bytes := by
  unfold load at loads
  cases reads : disk.read path with
  | error fault =>
      rw [reads] at loads
      cases fault <;> cases loads
  | ok bytes => exact ⟨bytes, rfl⟩

/-- A contact that is stored from either side is not new, and its store is written as it is. -/
theorem ingest_stored {disk : Disk} {path : String} {stored : ContactSet}
    (loads : load disk path = .ok (some stored)) {contact : Contact}
    (present : stored.contains contact) :
    ∃ next, ingest disk path (ContactSet.ofList [contact]) = .ok (ContactSet.empty, next) ∧
      next.read path = .ok (image stored) := by
  obtain ⟨bytes, reads⟩ := reads_of_load loads
  have loadsSome : loadOrEmpty disk path = .ok stored := by
    rw [loadOrEmpty, loads]
    rfl
  have known (other : Contact) :
      (ContactSet.ofList [contact]).valid.contains other → stored.contains other := by
    rw [ContactSet.contains_valid, Bool.and_eq_true, ContactSet.contains_ofList_singleton]
    rintro ⟨-, same⟩
    exact (ContactSet.contains_congr same).mp present
  obtain ⟨next, ingested, keeps⟩ :=
    ingest_keeps loadsSome (Disk.writable_of_read reads) (ContactSet.ofList [contact])
  rw [ContactSet.difference_eq_empty_iff.mpr known] at ingested
  refine ⟨next, ingested, ?_⟩
  rw [keeps.records, merged, ContactSet.union_eq_left_iff.mpr known]
  rfl

end Store

namespace Contact

/-- Two declarations are interchangeable when whoever uses a contact does the same for both. -/
structure Interchangeable (left right : Contact) : Prop where
  stop : left.stop = right.stop
  joins : left.joins = right.joins
  opposite : left.opposite? = right.opposite?
  otherAsn : left.otherAsn? = right.otherAsn?
  gateway : left.gateway? = right.gateway?
  nextHop : ∀ own resolver neighbor,
    left.nextHop own resolver = .ok neighbor ↔ right.nextHop own resolver = .ok neighbor
  candidates : Splice.candidates left = Splice.candidates right
  crossedBy : left.crossedBy = right.crossedBy
  openings : ∀ router : Router, router.openingsAlong left = router.openingsAlong right
  closings : ∀ router : Router, router.closingsAlong left = router.closingsAlong right
  refused : ∀ agenda : Agenda, agenda.tracks left → ∀ now,
    agenda.registerContact? right now = none ∧
      agenda.register (ContactSet.ofList [right]) now = ([], agenda)
  ingested : ∀ disk path stored, Store.load disk path = .ok (some stored) →
    stored.contains left →
    ∃ next, Store.ingest disk path (ContactSet.ofList [right]) = .ok (ContactSet.empty, next) ∧
      (disk.read path = .ok (Store.image stored) → next.read path = disk.read path)

/-- A valid contact may be declared from either side, now here and then there. -/
theorem Same.interchangeable {left right : Contact} (same : left.Same right)
    (isValid : left.isValid) : left.Interchangeable right where
  stop := same.stop_eq
  joins := same.joins_eq
  opposite := same.opposite?_eq isValid
  otherAsn := same.otherAsn?_eq isValid
  gateway := same.gateway?_eq isValid
  nextHop := same.nextHop_ok isValid
  candidates := same.candidates_eq isValid
  crossedBy := same.crossedBy_eq
  openings := same.openingsAlong_eq isValid
  closings := same.closingsAlong_eq
  refused agenda tracks now := by
    have refused := Agenda.registerContact?_of_tracks ((Agenda.tracks_congr same).mp tracks) now
    refine ⟨refused, ?_⟩
    change agenda.registerAll now [right] = ([], agenda)
    rw [Agenda.registerAll, refused]
    rfl
  ingested disk path stored loads present := by
    obtain ⟨next, ingested, written⟩ :=
      Store.ingest_stored loads ((ContactSet.contains_congr same).mp present)
    exact ⟨next, ingested, fun isWritten => written.trans isWritten.symm⟩

/-- The router of the ring is the first endpoint of this contact. -/
def spoke : Contact := Router.ringContact ⟨1, ⟨11⟩⟩ ⟨3, ⟨13⟩⟩

/-- The store has the spoke from its first side. -/
def spokeDisk : Disk := ⟨["home"], [(["home", "contacts"], .file (Record.write spoke))]⟩

/-- The other side of the spoke opens the same routes, is refused while the first side is tracked
and is not new to the store. -/
theorem Same.interchangeable_spoke : spoke ≠ spoke.flip ∧ spoke.Same spoke.flip ∧ spoke.isValid ∧
    Router.ring.openings spoke Router.ringTable ≠ [] ∧
    Router.ring.openings spoke Router.ringTable = Router.ring.openings spoke.flip Router.ringTable ∧
    (Agenda.empty.track spoke 0).registerContact? spoke.flip 0 = none ∧
    ∃ next, Store.ingest spokeDisk "contacts" (ContactSet.ofList [spoke.flip]) =
        .ok (ContactSet.empty, next) ∧
      next.read "contacts" = spokeDisk.read "contacts" := by
  have same : spoke.Same spoke.flip := by decide
  have isValid : spoke.isValid := by decide
  have interchangeable := same.interchangeable isValid
  have loads : Store.load spokeDisk "contacts" =
      .ok (some (Store.contents (Record.write spoke))) := rfl
  obtain ⟨next, ingested, unchanged⟩ :=
    interchangeable.ingested spokeDisk "contacts" _ loads (by decide)
  have opened := congrFun (interchangeable.openings Router.ring) Router.ringTable
  exact ⟨by decide, same, isValid, by decide, congrFun opened Router.ringTable.networks,
    (interchangeable.refused _ (by decide) 0).1, next, ingested, unchanged (by decide)⟩

end Contact

end ContactPlan
