import ContactPlan.Proofs.Contact.Same

namespace ContactPlan

/-- Of two numbers with two digits each, the upper digits decide unless they are equal. -/
theorem compare_digits {base upper lower otherUpper otherLower : Nat} (fits : lower < base)
    (otherFits : otherLower < base) :
    compare (upper * base + lower) (otherUpper * base + otherLower) =
      (compare upper otherUpper).then (compare lower otherLower) := by
  rcases Nat.lt_trichotomy upper otherUpper with below | rfl | above
  · have carried : (upper + 1) * base ≤ otherUpper * base := Nat.mul_le_mul_right base below
    rw [Nat.add_mul, Nat.one_mul] at carried
    rw [Nat.compare_eq_lt.mpr below, Nat.compare_eq_lt.mpr (by omega)]
    rfl
  · rw [Nat.compare_eq_eq.mpr rfl, Ordering.eq_then]
    rcases Nat.lt_trichotomy lower otherLower with below | rfl | above
    · rw [Nat.compare_eq_lt.mpr below, Nat.compare_eq_lt.mpr (by omega)]
    · rw [Nat.compare_eq_eq.mpr rfl, Nat.compare_eq_eq.mpr rfl]
    · rw [Nat.compare_eq_gt.mpr above, Nat.compare_eq_gt.mpr (by omega)]
  · have carried : (otherUpper + 1) * base ≤ upper * base := Nat.mul_le_mul_right base above
    rw [Nat.add_mul, Nat.one_mul] at carried
    rw [Nat.compare_eq_gt.mpr above, Nat.compare_eq_gt.mpr (by omega)]
    rfl

/-- Endpoints are compared by their systems first and then by their gateways. -/
theorem Endpoint.compare_rank (left right : Endpoint) :
    compare left.rank right.rank = (compare left.asn.toNat right.asn.toNat).then
      (compare left.gateway.bits.toNat right.gateway.bits.toNat) := by
  unfold rank
  rw [Nat.mul_comm, Nat.mul_comm UInt32.size]
  exact compare_digits left.gateway.bits.toNat_lt right.gateway.bits.toNat_lt

namespace Contact

/-- Declarations are compared field by field. -/
theorem compare_declaredRank (left right : Contact) :
    compare left.declaredRank right.declaredRank = compare left.fields right.fields := by
  have durations : compare (left.start.toNat * UInt64.size + left.duration.toNat)
      (right.start.toNat * UInt64.size + right.duration.toNat) = _ :=
    compare_digits left.duration.toNat_lt right.duration.toNat_lt
  unfold declaredRank fields
  rw [compare_digits left.second.rank_lt right.second.rank_lt,
    compare_digits left.first.rank_lt right.first.rank_lt, durations, Endpoint.compare_rank,
    Endpoint.compare_rank]
  simp only [List.compare_eq_compareLex, List.compareLex_cons_cons, List.compareLex_nil_nil,
    Ordering.then_assoc, Ordering.then_eq]

/-- The order of contacts is the lexicographic order of their words. -/
theorem order_eq_compare_words (left right : Contact) :
    left.order right = compare left.words right.words :=
  compare_declaredRank left.canonical right.canonical

/-- Contacts compare equal when they are declarations of one contact. -/
theorem order_eq_eq_iff {left right : Contact} : left.order right = .eq ↔ left.Same right :=
  Nat.compare_eq_eq.trans rank_eq_iff

/-- The order is that of the ranks. -/
theorem isLE_order_iff {left right : Contact} :
    (left.order right).isLE ↔ left.rank ≤ right.rank := Nat.isLE_compare

/-- The fields of a declaration say everything about it. -/
theorem eq_of_fields_eq {left right : Contact} (equal : left.fields = right.fields) :
    left = right := by
  apply eq_of_declaredRank_eq
  apply Nat.compare_eq_eq.mp
  rw [compare_declaredRank, equal]
  exact Std.ReflCmp.compare_self

/-- The words of two contacts are the same only if they are declarations of one contact. -/
theorem words_eq_iff {left right : Contact} : left.words = right.words ↔ left.Same right :=
  ⟨eq_of_fields_eq, fun same => congrArg fields same⟩

/-- Sides are swapped as a whole, and everything else stays. -/
theorem same_iff_sides {left right : Contact} :
    left.Same right ↔ left.start = right.start ∧ left.duration = right.duration ∧
      (left.first = right.first ∧ left.second = right.second ∨
        left.first = right.second ∧ left.second = right.first) := by
  obtain ⟨start, duration, first, second⟩ := left
  obtain ⟨otherStart, otherDuration, otherFirst, otherSecond⟩ := right
  rw [same_iff, flip, mk.injEq, mk.injEq]
  simp only [and_or_left]

/-- Two declarations are equal when times and durations agree and so do the endpoints, which may be
swapped as a whole. The order goes through the words from left to right. It is total, and it does
not tell equal declarations apart. Equal declarations have the same words, other ones do not, and
they are both valid or both not. -/
theorem order_laws (left middle right : Contact) :
    (left.Same right ↔ left.start = right.start ∧ left.duration = right.duration ∧
      (left.first = right.first ∧ left.second = right.second ∨
        left.first = right.second ∧ left.second = right.first)) ∧
    left.order right = compare left.words right.words ∧
    left.compare? right = some (left.order right) ∧
    (left.order right = .eq ↔ left.Same right) ∧
    right.order left = (left.order right).swap ∧
    ((left.order right).isLE ∨ (right.order left).isLE) ∧
    ((left.order right).isLE → (right.order left).isLE → left.Same right) ∧
    ((left.order middle).isLE → (middle.order right).isLE → (left.order right).isLE) ∧
    (left.words = right.words ↔ left.Same right) ∧
    (left.Same right → left.isValid = right.isValid) := by
  simp only [isLE_order_iff]
  refine ⟨same_iff_sides, order_eq_compare_words left right, rfl, order_eq_eq_iff,
    (Nat.compare_swap left.rank right.rank).symm, Nat.le_total left.rank right.rank, ?_,
    Nat.le_trans, words_eq_iff, Same.isValid_eq⟩
  intro below above
  exact rank_eq_iff.mp (Nat.le_antisymm below above)

/-- A contact of a system with itself, whose gateways are compared. -/
def loopback : Contact := ⟨1000, 500, ⟨10, ⟨22⟩⟩, ⟨10, ⟨11⟩⟩⟩

/-- Both declarations of a contact of a system with itself come before the contacts behind one of
them. A gateway that moves to the other system makes another contact. -/
theorem order_laws_loopback :
    let latest : Contact := { loopback.flip with duration := 501 }
    let crossed : Contact := { loopback with first := ⟨20, ⟨22⟩⟩ }
    loopback ≠ loopback.flip ∧ loopback.Same loopback.flip ∧
      loopback.words = loopback.flip.words ∧ loopback.isValid = loopback.flip.isValid ∧
      (loopback.flip.order latest).isLE ∧ (loopback.order latest).isLE ∧
      ¬crossed.Same { crossed with first := ⟨20, ⟨11⟩⟩, second := ⟨10, ⟨22⟩⟩ } := by
  intro latest crossed
  have upward : (loopback.order loopback.flip).isLE := by decide
  have downward : (loopback.flip.order loopback).isLE := by decide
  have later : (loopback.flip.order latest).isLE := by decide
  obtain ⟨-, -, -, -, -, -, antisymmetric, -, words, valid⟩ :=
    order_laws loopback latest loopback.flip
  obtain ⟨-, -, -, -, -, -, -, transitive, -, -⟩ := order_laws loopback loopback.flip latest
  obtain ⟨sides, -⟩ := order_laws crossed latest
    { crossed with first := ⟨20, ⟨11⟩⟩, second := ⟨10, ⟨22⟩⟩ }
  have same : loopback.Same loopback.flip := antisymmetric upward downward
  exact ⟨by decide, same, words.mpr same, valid same, later, transitive upward later,
    mt sides.mp (by decide)⟩

end Contact

end ContactPlan
