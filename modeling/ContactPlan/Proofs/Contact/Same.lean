import ContactPlan.Contact.Set

namespace ContactPlan

namespace Contact

/-- Both sides have the same canonical declaration. -/
theorem canonical_flip (contact : Contact) : contact.flip.canonical = contact.canonical := by
  change (if contact.second.rank ≤ contact.first.rank then contact.flip else contact) =
    if contact.first.rank ≤ contact.second.rank then contact else contact.flip
  by_cases lower : contact.first.rank ≤ contact.second.rank
  · rw [if_pos lower]
    by_cases upper : contact.second.rank ≤ contact.first.rank
    · rw [if_pos upper]
      have equal := Endpoint.eq_of_rank_eq (Nat.le_antisymm lower upper)
      cases contact
      cases equal
      rfl
    · rw [if_neg upper]
  · rw [if_neg lower, if_pos (Nat.le_of_not_le lower)]

/-- The canonical declaration is one of the two. -/
theorem canonical_eq_or_flip (contact : Contact) :
    contact.canonical = contact ∨ contact.canonical = contact.flip := by
  unfold canonical
  split
  · exact .inl rfl
  · exact .inr rfl

/-- Two declarations of one contact are equal or the flips of each other. -/
theorem same_iff {left right : Contact} : left.Same right ↔ left = right ∨ left = right.flip := by
  constructor
  · intro same
    unfold Same at same
    rcases canonical_eq_or_flip left with leftIs | leftIs <;>
      rcases canonical_eq_or_flip right with rightIs | rightIs <;> rw [leftIs, rightIs] at same
    · exact .inl same
    · exact .inr same
    · exact .inr (by rw [← same, flip_flip])
    · exact .inl (by simpa only [flip_flip] using congrArg flip same)
  · rintro (rfl | rfl)
    · rfl
    · exact canonical_flip right

theorem canonical_same (contact : Contact) : contact.canonical.Same contact :=
  same_iff.mpr contact.canonical_eq_or_flip

theorem Same.refl (contact : Contact) : contact.Same contact := rfl

theorem Same.symm {left right : Contact} (same : left.Same right) : right.Same left :=
  Eq.symm same

theorem Same.trans {left middle right : Contact} (first : left.Same middle)
    (second : middle.Same right) : left.Same right := Eq.trans first second

/-- Sameness may be tested against either of two declarations of one contact. -/
theorem Same.congr_right {left right : Contact} (same : left.Same right) (other : Contact) :
    other.Same left ↔ other.Same right :=
  ⟨fun toLeft => toLeft.trans same, fun toRight => toRight.trans same.symm⟩

theorem isValid_flip (contact : Contact) : contact.flip.isValid = contact.isValid := by
  simp only [isValid, flip, ne_comm (a := contact.second.asn)]
  ac_rfl

/-- Whether a contact is valid does not depend on its declaration. -/
theorem Same.isValid_eq {left right : Contact} (same : left.Same right) :
    left.isValid = right.isValid := by
  rcases same_iff.mp same with rfl | rfl
  · rfl
  · exact isValid_flip right

/-- A valid contact has two different systems. -/
theorem apart_of_isValid {contact : Contact} (isValid : contact.isValid) :
    contact.first.asn ≠ contact.second.asn := by
  simp only [Contact.isValid, Bool.and_eq_true, decide_eq_true_eq] at isValid
  exact isValid.2

/-- Which systems a contact joins does not depend on the side. -/
theorem joins_flip (contact : Contact) (left right : Asn) :
    contact.flip.joins left right = contact.joins left right := by
  simp only [joins, flip]
  exact Bool.or_comm _ _

/-- Both declarations of a contact join the same systems. -/
theorem Same.joins_eq {left right : Contact} (same : left.Same right) :
    left.joins = right.joins := by
  funext first second
  rcases same_iff.mp same with rfl | rfl
  · rfl
  · exact joins_flip right first second

end Contact

end ContactPlan
