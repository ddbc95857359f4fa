import ContactPlan.Link.Router
import ContactPlan.Proofs.Contact.Same

namespace ContactPlan

/-- A path hops from one system to another when the second comes directly after the first. -/
def Asn.HopsTo (first second : Asn) (path : List Asn) : Prop := [first, second] <:+: path

/-- Two systems are neighbors on a path that hops from one of them to the other. -/
def Asn.NeighborsOn (left right : Asn) (path : List Asn) : Prop :=
  left.HopsTo right path ∨ right.HopsTo left path

instance (left right : Asn) (path : List Asn) : Decidable (left.NeighborsOn right path) :=
  inferInstanceAs (Decidable ([left, right] <:+: path ∨ [right, left] <:+: path))

/-- Where two paths meet, the only new hop is the one from the first to the second. -/
theorem Asn.HopsTo.append {first second : Asn} {front back : List Asn}
    (hops : first.HopsTo second (front ++ back)) :
    first.HopsTo second front ∨ first.HopsTo second back ∨
      front.getLast? = some first ∧ back.head? = some second := by
  rcases List.infix_append_iff.mp hops with inFront | inBack | ⟨left, right, split, ends, begins⟩
  · exact .inl inFront
  · exact .inr (.inl inBack)
  · match left, split with
    | [], split =>
        rw [List.nil_append] at split
        rw [← split] at begins
        exact .inr (.inl begins.isInfix)
    | [_], split =>
        cases split
        obtain ⟨before, rfl⟩ := ends
        obtain ⟨after, rfl⟩ := begins
        exact .inr (.inr ⟨List.getLast?_concat, rfl⟩)
    | [_, _], split =>
        cases split
        exact .inl ends.isInfix

namespace Contact

/-- A contact joins two systems in either order. -/
theorem joins_comm (contact : Contact) (left right : Asn) :
    contact.joins left right = contact.joins right left := by
  unfold joins
  rw [Bool.or_comm, Bool.and_comm (left == contact.second.asn),
    Bool.and_comm (left == contact.first.asn)]

/-- A contact joins its two systems and no others. -/
theorem joins_iff {contact : Contact} {left right : Asn} :
    contact.joins left right ↔ (left = contact.first.asn ∧ right = contact.second.asn) ∨
      (left = contact.second.asn ∧ right = contact.first.asn) := by
  simp [joins]

/-- A path crosses a contact when it hops between two systems that the contact joins. -/
theorem adjacentIn_iff {contact : Contact} {path : List Asn} :
    contact.adjacentIn path ↔ ∃ first second, contact.joins first second ∧
      first.HopsTo second path := by
  induction path with
  | nil =>
      constructor
      · intro adjacent
        cases adjacent
      · rintro ⟨first, second, -, hops⟩
        cases List.infix_nil.mp hops
  | cons head rest inductionHypothesis =>
      cases rest with
      | nil =>
          constructor
          · intro adjacent
            cases adjacent
          · rintro ⟨first, second, -, hops⟩
            have short := hops.length_le
            simp at short
      | cons next rest =>
          unfold adjacentIn
          rw [Bool.or_eq_true, inductionHypothesis]
          constructor
          · rintro (joins | ⟨first, second, joins, hops⟩)
            · exact ⟨head, next, joins, (List.prefix_append [head, next] rest).isInfix⟩
            · exact ⟨first, second, joins, List.infix_cons hops⟩
          · rintro ⟨first, second, joins, hops⟩
            rcases List.infix_cons_iff.mp hops with begins | later
            · obtain ⟨after, split⟩ := begins
              cases split
              exact .inl joins
            · exact .inr ⟨first, second, joins, later⟩

/-- A contact joins every system on one side to the one on the other side. -/
theorem otherAsn?_eq_some_iff {contact : Contact} {hop start : Asn} :
    contact.otherAsn? hop = some start ↔ contact.joins hop start := by
  rw [joins_iff]
  unfold otherAsn? opposite?
  by_cases isFirst : hop = contact.first.asn
  · rw [if_pos isFirst]
    constructor
    · intro other
      cases other
      exact .inl ⟨isFirst, rfl⟩
    · rintro (⟨-, rfl⟩ | ⟨isSecond, rfl⟩)
      · rfl
      · exact congrArg some (isSecond.symm.trans isFirst)
  · rw [if_neg isFirst, or_iff_right fun joined => isFirst joined.1]
    by_cases isSecond : hop = contact.second.asn
    · simp [isSecond, eq_comm]
    · simp [isSecond]

/-- A router next to one endpoint does not have the other as the first hop of a path that does not
cross the contact. -/
theorem head?_ne_of_not_crossedBy {contact : Contact} {own start : Asn} {path : List Asn}
    (notCrossed : ¬contact.crossedBy own path) (opposite : contact.otherAsn? own = some start) :
    path.head? ≠ some start := by
  intro begins
  obtain ⟨rest, rfl⟩ := List.head?_eq_some_iff.mp begins
  have joins := otherAsn?_eq_some_iff.mp opposite
  simp [crossedBy, adjacentIn, joins] at notCrossed

/-- Both declarations of a contact are adjacent in the same paths. -/
theorem Same.adjacentIn_eq {left right : Contact} (same : left.Same right) :
    left.adjacentIn = right.adjacentIn := by
  funext path
  apply Bool.eq_iff_iff.mpr
  rw [adjacentIn_iff, adjacentIn_iff, same.joins_eq]

/-- Both declarations of a contact are crossed by the same paths. -/
theorem Same.crossedBy_eq {left right : Contact} (same : left.Same right) :
    left.crossedBy = right.crossedBy := by
  unfold crossedBy
  rw [same.adjacentIn_eq]

end Contact

namespace Splice

/-- Nothing is lost when repetitions are left out. -/
theorem mem_distinct {Element : Type} [DecidableEq Element] {element : Element}
    {elements : List Element} : element ∈ distinct elements ↔ element ∈ elements := by
  induction elements with
  | nil => rfl
  | cons first rest inductionHypothesis =>
      by_cases equal : element = first
      · simp [distinct, equal]
      · simp [distinct, equal, inductionHypothesis]

/-- The head of a cut ends with its hop when the router stands in front. -/
theorem head_of_mem_cuts {own : Asn} {path : List Asn} {cut : Cut} (member : cut ∈ cuts own path) :
    own :: cut.head <+: own :: path ∧ (own :: cut.head).getLast? = some cut.hop := by
  obtain ⟨⟨hop, length⟩, isPair, rfl⟩ := List.mem_map.mp member
  obtain ⟨index, inside, isHere⟩ := List.mem_iff_getElem.mp isPair
  rw [List.getElem_zip, List.getElem_range] at isHere
  obtain ⟨rfl, rfl⟩ := Prod.mk.inj isHere
  refine ⟨List.take_prefix (index + 1) (own :: path), ?_⟩
  have within : index < (own :: path).length := by
    simp only [List.length_zip, List.length_range] at inside
    omega
  change ((own :: path).take (index + 1)).getLast? = some (own :: path)[index]
  rw [← List.take_append_getElem within, List.getLast?_concat]

/-- The tails of a path are its ends that begin with the given system, except for those that lead
straight back to the hop. -/
theorem mem_tails {start hop : Asn} {path tail : List Asn} :
    tail ∈ tails start hop path ↔
      tail <:+ path ∧ ∃ rest, tail = start :: rest ∧ rest.head? ≠ some hop := by
  induction path with
  | nil =>
      constructor
      · intro member
        cases member
      · rintro ⟨ends, rest, rfl, -⟩
        cases List.suffix_nil.mp ends
  | cons asn rest inductionHypothesis =>
      unfold tails
      rw [List.suffix_cons_iff, or_and_right, ← inductionHypothesis]
      split
      next isStart =>
        obtain ⟨rfl, leads⟩ := isStart
        rw [List.mem_cons]
        exact or_congr_left ⟨fun whole => ⟨whole, rest, whole, leads⟩, And.left⟩
      next isNotStart =>
        refine (or_iff_right ?_).symm
        rintro ⟨rfl, after, whole, leads⟩
        cases whole
        exact isNotStart ⟨rfl, leads⟩

/-- Candidates are the heads of a path that does not cross the contact, each followed by the tails
of the other paths that begin on the other side. -/
theorem mem_candidates {contact : Contact} {own : Asn} {path : List Asn}
    {others : List (List Asn)} {candidate : List Asn} :
    candidate ∈ candidates contact own path others ↔
      ¬contact.crossedBy own path ∧ ∃ cut ∈ cuts own path, ∃ start,
        contact.otherAsn? cut.hop = some start ∧
          ∃ other ∈ others, ∃ tail ∈ tails start cut.hop other, cut.head ++ tail = candidate := by
  have joined (cut : Cut) : candidate ∈ cut.join contact others ↔ ∃ start,
      contact.otherAsn? cut.hop = some start ∧
        ∃ other ∈ others, ∃ tail ∈ tails start cut.hop other, cut.head ++ tail = candidate := by
    unfold Cut.join
    cases contact.otherAsn? cut.hop with
    | none => simp
    | some start => simp
  unfold candidates
  by_cases crosses : contact.crossedBy own path
  · simp [crosses]
  · rw [if_neg crosses, mem_distinct, List.mem_flatMap, and_iff_right crosses]
    simp only [joined]

/-- A whole path is spliced from the beginning of a path and the end of another one, and the
contact joins the systems where they meet. -/
def Spliced (contact : Contact) (path other whole : List Asn) : Prop :=
  ∃ head tail hop start, whole = head ++ tail ∧ head <+: path ∧ tail <:+ other ∧
    head.getLast? = some hop ∧ tail.head? = some start ∧ contact.joins hop start

/-- The head of a cut and a tail behind it are spliced when the router stands in front. -/
theorem spliced_of_cut {contact : Contact} {own start : Asn} {path other tail : List Asn}
    {cut : Cut} (isCut : cut ∈ cuts own path) (opposite : contact.otherAsn? cut.hop = some start)
    (isTail : tail ∈ tails start cut.hop other) :
    Spliced contact (own :: path) other (own :: (cut.head ++ tail)) := by
  obtain ⟨beginsPath, endsInHop⟩ := head_of_mem_cuts isCut
  obtain ⟨endsOther, rest, rfl, -⟩ := mem_tails.mp isTail
  exact ⟨own :: cut.head, start :: rest, cut.hop, start, rfl, beginsPath, endsOther, endsInHop, rfl,
    Contact.otherAsn?_eq_some_iff.mp opposite⟩

/-- A spliced path makes no other new hop than the one across the contact. -/
theorem Spliced.hopsTo {contact : Contact} {path other whole : List Asn}
    (spliced : Spliced contact path other whole) {first second : Asn}
    (hops : first.HopsTo second whole) :
    first.HopsTo second path ∨ first.HopsTo second other ∨ contact.joins first second := by
  obtain ⟨head, tail, hop, start, rfl, beginsPath, endsOther, endsInHop, beginsWithStart, joins⟩ :=
    spliced
  rcases hops.append with inHead | inTail | ⟨isHop, isStart⟩
  · exact .inl (inHead.trans beginsPath.isInfix)
  · exact .inr (.inl (inTail.trans endsOther.isInfix))
  · cases isHop.symm.trans endsInHop
    cases isStart.symm.trans beginsWithStart
    exact .inr (.inr joins)

/-- A spliced path crosses the contact. -/
theorem Spliced.adjacentIn {contact : Contact} {path other whole : List Asn}
    (spliced : Spliced contact path other whole) : contact.adjacentIn whole := by
  obtain ⟨head, tail, hop, start, rfl, -, -, endsInHop, beginsWithStart, joins⟩ := spliced
  obtain ⟨front, rfl⟩ := List.getLast?_eq_some_iff.mp endsInHop
  obtain ⟨rest, rfl⟩ := List.head?_eq_some_iff.mp beginsWithStart
  refine Contact.adjacentIn_iff.mpr ⟨hop, start, joins, front, rest, ?_⟩
  simp only [List.append_assoc, List.cons_append, List.nil_append]

/-- A spliced path leads where the other path leads. -/
theorem Spliced.getLast?_eq {contact : Contact} {own : Asn} {path other candidate : List Asn}
    (spliced : Spliced contact path other (own :: candidate)) :
    candidate ≠ [] ∧ candidate.getLast? = other.getLast? := by
  obtain ⟨head, tail, hop, start, whole, -, ⟨before, rfl⟩, endsInHop, beginsWithStart, -⟩ := spliced
  obtain ⟨after, rfl⟩ := List.head?_eq_some_iff.mp beginsWithStart
  match head, endsInHop, whole with
  | first :: rest, _, whole =>
      rw [List.cons_append, List.cons.injEq] at whole
      obtain ⟨-, rfl⟩ := whole
      refine ⟨List.append_ne_nil_of_right_ne_nil rest (List.cons_ne_nil start after), ?_⟩
      rw [List.getLast?_append, List.getLast?_append, List.getLast?_cons, Option.some_or,
        Option.some_or]

end Splice

end ContactPlan
