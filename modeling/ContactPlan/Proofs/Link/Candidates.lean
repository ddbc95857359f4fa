import ContactPlan.Proofs.Link.Crossing
import Mathlib.Data.List.Basic

namespace ContactPlan

/-- A path crosses a contact when the two systems are neighbors on it. -/
theorem Contact.adjacentIn_iff_neighborsOn (contact : Contact) {path : List Asn} :
    contact.adjacentIn path ↔ contact.first.asn.NeighborsOn contact.second.asn path := by
  rw [adjacentIn_iff]
  constructor
  · rintro ⟨left, right, joined, hops⟩
    rcases joins_iff.mp joined with ⟨rfl, rfl⟩ | ⟨rfl, rfl⟩
    · exact .inl hops
    · exact .inr hops
  · rintro (hops | hops)
    · exact ⟨_, _, joins_iff.mpr (.inl ⟨rfl, rfl⟩), hops⟩
    · exact ⟨_, _, joins_iff.mpr (.inr ⟨rfl, rfl⟩), hops⟩

namespace Splice

/-- Distinct elements stand in the order in which they come first. -/
theorem pairwise_idxOf_distinct {Element : Type} [DecidableEq Element] [BEq Element]
    [LawfulBEq Element] (elements : List Element) :
    (distinct elements).Pairwise fun earlier later =>
      elements.idxOf earlier < elements.idxOf later := by
  induction elements with
  | nil => exact List.Pairwise.nil
  | cons first rest inductionHypothesis =>
      have behindFirst (element : Element)
          (member : element ∈ (distinct rest).filter (· ≠ first)) :
          (first :: rest).idxOf element = rest.idxOf element + 1 := by
        have different : element ≠ first := by simpa using (List.mem_filter.mp member).2
        exact List.idxOf_cons_ne rest different.symm
      apply List.Pairwise.cons
      · intro element member
        rw [List.idxOf_cons_self, behindFirst element member]
        exact Nat.succ_pos _
      · apply (inductionHypothesis.filter (· ≠ first)).imp_of_mem
        intro earlier later isEarlier isLater inOrder
        rw [behindFirst earlier isEarlier, behindFirst later isLater]
        exact Nat.succ_lt_succ inOrder

/-- Two paths meet where the contact joins a hop to a system of the other path, unless the other
path leads straight back. -/
def meetAt (contact : Contact) (path other : List Asn) (cut start : Nat) : Bool :=
  match path[cut]?, other[start]? with
  | some hop, some asn => contact.joins hop asn && other[start + 1]? ≠ some hop
  | _, _ => false

/-- The path up to the cut goes on with the other path from the start, and the router in front is
left out. -/
def spliceAt (path other : List Asn) (cut start : Nat) : List Asn :=
  (path.take (cut + 1)).tail ++ other.drop start

/-- The splices are listed by the position of the cut, then by the other path, and then by the
position where its tail starts. No path is cut behind its last hop. -/
def splices (contact : Contact) (path : List Asn) (others : List (List Asn)) : List (List Asn) :=
  (List.range (path.length - 1)).flatMap fun cut =>
    others.flatMap fun other =>
      ((List.range other.length).filter (meetAt contact path other cut)).map
        (spliceAt path other cut)

/-- The tails of a path are found by the positions where they start. -/
theorem tails_eq (start hop : Asn) (path : List Asn) :
    tails start hop path =
      ((List.range path.length).filter fun index =>
        path[index]? = some start ∧ path[index + 1]? ≠ some hop).map path.drop := by
  induction path with
  | nil => rfl
  | cons asn rest inductionHypothesis =>
      rw [List.length_cons, List.range_succ_eq_map, List.filter_cons, List.filter_map]
      unfold tails
      simp only [inductionHypothesis, List.head?_eq_getElem?]
      by_cases isStart : asn = start ∧ rest[0]? ≠ some hop
      · simp [isStart, Function.comp_def]
      · simp [isStart, Function.comp_def]

/-- Behind a cut come the splices of its position. -/
theorem join_eq (contact : Contact) {path : List Asn} {index : Nat} {hop : Asn}
    (isHop : path[index]? = some hop) (others : List (List Asn)) :
    Cut.join ⟨(path.take (index + 1)).tail, hop⟩ contact others =
      others.flatMap fun other =>
        ((List.range other.length).filter (meetAt contact path other index)).map
          (spliceAt path other index) := by
  unfold Cut.join
  cases opposite : contact.otherAsn? hop with
  | none =>
      have apart (other : List Asn) (start : Nat) :
          meetAt contact path other index start = false := by
        unfold meetAt
        rw [isHop]
        cases other[start]? with
        | none => rfl
        | some asn =>
            have notJoined : ¬contact.joins hop asn := by
              rw [← Contact.otherAsn?_eq_some_iff, opposite]
              exact Option.some_ne_none asn |>.symm
            simp [notJoined]
      simp [apart]
  | some start =>
      have meets (other : List Asn) : meetAt contact path other index = fun position =>
          decide (other[position]? = some start ∧ other[position + 1]? ≠ some hop) := by
        funext position
        unfold meetAt
        rw [isHop]
        cases other[position]? with
        | none => simp
        | some asn =>
            have joined : contact.joins hop asn ↔ asn = start := by
              rw [← Contact.otherAsn?_eq_some_iff, opposite, Option.some.injEq, eq_comm]
            apply Bool.eq_iff_iff.mpr
            simp [joined]
      simp only [tails_eq, List.map_map, meets]
      rfl

/-- A path that does not cross the contact is cut at every position but the last. -/
theorem candidates_eq {contact : Contact} {own : Asn} {path : List Asn}
    (notCrossed : ¬contact.crossedBy own path) (others : List (List Asn)) :
    candidates contact own path others = distinct (splices contact (own :: path) others) := by
  unfold candidates splices
  rw [if_neg notCrossed, List.flatMap_def, List.flatMap_def]
  congr 2
  apply List.ext_getElem
  · simp [cuts]
  · intro index inside _
    have within : index < path.length := by simpa [cuts] using inside
    have inWhole : index < (own :: path).length := Nat.lt_succ_of_lt within
    have inCuts : index < (cuts own path).length := by simpa [cuts] using within
    have isCut : (cuts own path)[index] =
        ⟨((own :: path).take (index + 1)).tail, (own :: path)[index]⟩ := by simp [cuts]
    rw [List.getElem_map, List.getElem_map, List.getElem_range, isCut,
      join_eq contact (List.getElem?_eq_getElem inWhole)]

/-- A path without a second hop has no candidates, nor has one that crosses the contact. All others
have every splice once, in the order in which they come first. A candidate keeps its systems when it
is put into segments, and it crosses the contact. -/
theorem candidates_inOrder (contact : Contact) (own : Asn) (path : List Asn)
    (others : List (List Asn)) :
    let whole := own :: path
    let found := candidates contact own path others
    let possible := splices contact whole others
    (whole.length < 2 ∨ contact.first.asn.NeighborsOn contact.second.asn whole → found = []) ∧
    (¬contact.first.asn.NeighborsOn contact.second.asn whole →
      (∀ candidate, candidate ∈ found ↔ candidate ∈ possible) ∧ found.Nodup ∧
        found.Pairwise fun earlier later =>
          possible.idxOf earlier < possible.idxOf later) ∧
    ∀ candidate ∈ found, Segment.flatten (Segment.ofPath candidate) = candidate ∧
      contact.first.asn.NeighborsOn contact.second.asn (own :: candidate) := by
  have crosses : contact.crossedBy own path ↔
      contact.first.asn.NeighborsOn contact.second.asn (own :: path) :=
    contact.adjacentIn_iff_neighborsOn
  simp only [← crosses]
  constructor
  · rintro (short | isCrossed)
    · have noHop : path = [] := by
        apply List.eq_nil_of_length_eq_zero
        rw [List.length_cons] at short
        omega
      simp [noHop, candidates, cuts]
    · exact if_pos isCrossed
  constructor
  · intro notCrossed
    rw [candidates_eq notCrossed]
    have inOrder := pairwise_idxOf_distinct (splices contact (own :: path) others)
    have once : (distinct (splices contact (own :: path) others)).Nodup := by
      apply inOrder.imp
      rintro earlier later before rfl
      exact Nat.lt_irrefl _ before
    exact ⟨fun candidate => mem_distinct, once, inOrder⟩
  · intro candidate member
    obtain ⟨-, cut, isCut, start, opposite, other, -, tail, isTail, rfl⟩ :=
      mem_candidates.mp member
    have spliced := spliced_of_cut isCut opposite isTail
    exact ⟨Segment.flatten_ofPath _, contact.adjacentIn_iff_neighborsOn.mp spliced.adjacentIn⟩

/-- The path comes to one system of the contact twice, and so does one of the other paths to the
other system. A third path leads straight back, and the last one repeats a tail. -/
theorem candidates_inOrder_recurring :
    let contact : Contact := ⟨1000, 500, ⟨1, ⟨11⟩⟩, ⟨3, ⟨13⟩⟩⟩
    let others : List (List Asn) := [[3, 5, 3, 6], [2, 3, 1, 7], [3, 6]]
    let found := candidates contact 1 [2, 1, 4] others
    ¬Asn.NeighborsOn 1 3 [1, 2, 1, 4] ∧
      splices contact [1, 2, 1, 4] others =
        [[3, 5, 3, 6], [3, 6], [3, 6], [2, 1, 3, 5, 3, 6], [2, 1, 3, 6], [2, 1, 3, 6]] ∧
      [2, 1, 3, 6] ∈ found ∧ found.Nodup ∧ Asn.NeighborsOn 1 3 [1, 2, 1, 3, 6] := by
  intro contact others found
  have notCrossed : ¬contact.adjacentIn [1, 2, 1, 4] := by decide
  have apart : ¬Asn.NeighborsOn 1 3 [1, 2, 1, 4] :=
    fun neighbors => notCrossed (contact.adjacentIn_iff_neighborsOn.mpr neighbors)
  obtain ⟨-, inOrder, across⟩ := candidates_inOrder contact 1 [2, 1, 4] others
  obtain ⟨isFound, once, -⟩ := inOrder apart
  have member : [2, 1, 3, 6] ∈ found := (isFound [2, 1, 3, 6]).mpr (by decide)
  exact ⟨apart, by decide, member, once, (across _ member).2⟩

end Splice

end ContactPlan
