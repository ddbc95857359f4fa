import ContactPlan.Proofs.Contact.Set

namespace ContactPlan.ContactSet

/-- Disjoint sets have no contact in common, however it is declared. -/
def Disjoint (left right : ContactSet) : Prop :=
  ∀ contact, left.contains contact → ¬right.contains contact

theorem isEmpty_iff {set : ContactSet} : set.isEmpty ↔ set = empty := by
  rw [isEmpty, List.isEmpty_iff]
  constructor
  · intro noMembers
    ext1
    exact noMembers
  · intro isEmpty
    rw [isEmpty]
    rfl

/-- A difference keeps the declarations of what the other set does not have. -/
theorem mem_difference {set other : ContactSet} {contact : Contact} :
    contact ∈ (set.difference other).members ↔ contact ∈ set.members ∧ ¬other.contains contact := by
  simp [difference]

/-- Nothing is left when the other set has everything. -/
theorem difference_eq_empty_iff {set other : ContactSet} :
    set.difference other = empty ↔
      ∀ contact, set.contains contact → other.contains contact := by
  constructor
  · intro nothing contact present
    have remaining : (set.difference other).contains contact = false := by rw [nothing]; rfl
    simpa [contains_difference, present] using remaining
  · intro known
    ext1
    apply List.eq_nil_iff_forall_not_mem.mpr
    intro contact member
    have ⟨isMember, isUnknown⟩ := mem_difference.mp member
    exact isUnknown (known contact (contains_of_mem isMember))

section

variable (first second third : ContactSet)

/-- Unions in either order have the same contacts. -/
theorem same_union_comm : (first.union second).Same (second.union first) := by
  apply same_of_contains_eq
  intro contact
  rw [contains_union, contains_union, Bool.or_comm]

/-- Of three declarations of one contact the first stays in either order. -/
theorem union_assoc : (first.union second).union third = first.union (second.union third) := by
  apply eq_of_declaration?_eq
  intro contact
  simp only [declaration?_union, Option.or_assoc]

@[simp] theorem union_self : first.union first = first := by
  apply eq_of_declaration?_eq
  intro contact
  simp only [declaration?_union, Option.or_self]

@[simp] theorem union_empty : first.union empty = first := rfl

@[simp] theorem empty_union : empty.union first = first := by
  apply eq_of_declaration?_eq
  intro contact
  rw [declaration?_union]
  rfl

/-- A union takes from its second set only what the first does not have. -/
theorem union_difference : first.union (second.difference first) = first.union second := by
  apply eq_of_declaration?_eq
  intro contact
  rw [declaration?_union, declaration?_union, declaration?_difference, contains_eq]
  cases first.declaration? contact <;> simp

/-- A difference has nothing in common with what is taken away. -/
theorem disjoint_difference : (second.difference first).Disjoint first := by
  intro contact remains present
  simp [contains_difference, present] at remains

variable {first second} in
/-- The members of a union are those of its first set and those that the second one adds. -/
theorem mem_union {contact : Contact} :
    contact ∈ (first.union second).members ↔
      contact ∈ first.members ∨ contact ∈ (second.difference first).members := by
  simp only [mem_members_iff, declaration?_union, declaration?_difference, contains_eq]
  cases first.declaration? contact <;> simp

/-- A union has the members of its first set and of the difference. -/
theorem perm_union :
    (first.union second).members.Perm (first.members ++ (second.difference first).members) := by
  have apart : first.members.Disjoint (second.difference first).members := by
    intro contact member added
    exact (mem_difference.mp added).2 (contains_of_mem member)
  have distinct := first.ascending.nodup.append (second.difference first).ascending.nodup apart
  rw [List.perm_ext_iff_of_nodup (first.union second).ascending.nodup distinct]
  intro contact
  rw [mem_union, List.mem_append]

/-- A union grows by the difference. -/
theorem size_union : (first.union second).size = first.size + (second.difference first).size := by
  have sameLength := (perm_union first second).length_eq
  rw [List.length_append] at sameLength
  exact sameLength

variable {first second} in
/-- A set adds nothing exactly when all its contacts are there already. -/
theorem union_eq_left_iff :
    first.union second = first ↔ ∀ contact, second.contains contact → first.contains contact := by
  constructor
  · intro unchanged contact present
    rw [← unchanged, contains_union, present, Bool.or_true]
  · intro known
    rw [← union_difference, difference_eq_empty_iff.mpr known, union_empty]

/-- Up to declarations, union is commutative, associative and idempotent, and the empty set is
neutral to it. All but the first of these laws hold for the declarations too.
The difference is the part of the second set that is disjoint from the first, and it is what the
union adds: nothing exactly when the first set has all contacts of the second. -/
theorem union_laws :
    (first.union second).Same (second.union first) ∧
    (first.union second).union third = first.union (second.union third) ∧
    first.union first = first ∧ first.union empty = first ∧ empty.union first = first ∧
    (second.difference first).Disjoint first ∧
    (second.difference first).members.Sublist second.members ∧
    (first.union second).size = first.size + (second.difference first).size ∧
    first.union (second.difference first) = first.union second ∧
    ((second.difference first).isEmpty ↔
      ∀ contact, second.contains contact → first.contains contact) ∧
    ((∀ contact, second.contains contact → first.contains contact) ↔
      first.union second = first) :=
  ⟨same_union_comm first second, union_assoc first second third, union_self first,
    union_empty first, empty_union first, disjoint_difference first second,
    List.filter_sublist, size_union first second, union_difference first second,
    isEmpty_iff.trans difference_eq_empty_iff, union_eq_left_iff.symm⟩

end

/-- Each of two unions keeps the declaration of its own first set. -/
example :
    let contact : Contact := ⟨1000, 500, ⟨10, ⟨1⟩⟩, ⟨20, ⟨2⟩⟩⟩
    let declared := ofList [contact]
    let flipped := ofList [contact.flip]
    (declared.union flipped).Same (flipped.union declared) ∧
      (declared.union flipped).members ≠ (flipped.union declared).members := by
  decide

end ContactPlan.ContactSet
