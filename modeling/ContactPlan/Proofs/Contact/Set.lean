import ContactPlan.Contact.Set
import ContactPlan.Proofs.Contact.Same
import Mathlib.Data.List.Nodup
import Mathlib.Tactic.SplitIfs

namespace ContactPlan

namespace Contact

/-- The declaration that a list has of a contact. -/
def declarationIn (contact : Contact) (contacts : List Contact) : Option Contact :=
  contacts.find? fun member => member.Same contact

@[simp] theorem declarationIn_nil (contact : Contact) : contact.declarationIn [] = none := rfl

theorem declarationIn_cons_same {head contact : Contact} (same : head.Same contact)
    (rest : List Contact) : contact.declarationIn (head :: rest) = some head :=
  List.find?_cons_of_pos (decide_eq_true same)

theorem declarationIn_cons_other {head contact : Contact} (other : ¬head.Same contact)
    (rest : List Contact) : contact.declarationIn (head :: rest) = contact.declarationIn rest :=
  List.find?_cons_of_neg (by simpa using other)

/-- The first part of a list goes before the second one. -/
theorem declarationIn_append (contact : Contact) (first second : List Contact) :
    contact.declarationIn (first ++ second) =
      (contact.declarationIn first).or (contact.declarationIn second) :=
  List.find?_append

/-- Nothing is found where the contact is not declared. -/
theorem declarationIn_eq_none {contact : Contact} {contacts : List Contact}
    (absent : ∀ member ∈ contacts, ¬member.Same contact) :
    contact.declarationIn contacts = none :=
  List.find?_eq_none.mpr fun member isMember => by simpa using absent member isMember

/-- What is found in a list is a member of it. -/
theorem mem_of_declarationIn {contact declared : Contact} {contacts : List Contact}
    (found : contact.declarationIn contacts = some declared) : declared ∈ contacts :=
  List.mem_of_find?_eq_some found

/-- Contacts of different rank are different contacts. -/
theorem not_same_of_rank_lt {left right : Contact} (below : left.rank < right.rank) :
    ¬left.Same right :=
  fun same => Nat.ne_of_lt below (rank_eq_iff.mpr same)

/-- The contacts behind a lower one are not the same contact. -/
theorem declarationIn_eq_none_of_below {contact : Contact} {contacts : List Contact}
    (below : ∀ member ∈ contacts, contact.rank < member.rank) :
    contact.declarationIn contacts = none := by
  apply declarationIn_eq_none
  intro member isMember same
  exact not_same_of_rank_lt (below member isMember) same.symm

/-- A contact that is inserted is found unless another declaration was there. -/
theorem declarationIn_insertInto (inserted contact : Contact) {contacts : List Contact}
    (ascending : Ascending contacts) :
    contact.declarationIn (inserted.insertInto contacts) =
      (contact.declarationIn contacts).or (contact.declarationIn [inserted]) := by
  induction contacts with
  | nil => rfl
  | cons head rest inductionHypothesis =>
      obtain ⟨headBelow, restAscending⟩ := List.pairwise_cons.mp ascending
      have later := inductionHypothesis restAscending
      rw [insertInto]
      split_ifs with below equal
      · by_cases same : inserted.Same contact
        · have absent : contact.declarationIn (head :: rest) = none := by
            apply declarationIn_eq_none_of_below
            intro member isMember
            rw [← rank_eq_iff.mpr same]
            rcases List.mem_cons.mp isMember with isHead | inRest
            · rw [isHead]
              exact below
            · exact Nat.lt_trans below (headBelow member inRest)
          rw [absent, declarationIn_cons_same same, declarationIn_cons_same same]
          rfl
        · rw [declarationIn_cons_other same, declarationIn_cons_other same, declarationIn_nil,
            Option.or_none]
      · by_cases same : head.Same contact
        · rw [declarationIn_cons_same same]
          rfl
        · have other : ¬inserted.Same contact :=
            fun insertedSame => same ((rank_eq_iff.mp equal).symm.trans insertedSame)
          rw [declarationIn_cons_other other, declarationIn_nil, Option.or_none]
      · by_cases same : head.Same contact
        · rw [declarationIn_cons_same same, declarationIn_cons_same same]
          rfl
        · rw [declarationIn_cons_other same, declarationIn_cons_other same, later]

/-- A filter that does not tell declarations apart keeps a contact or drops it. -/
theorem declarationIn_filter {keep : Contact → Bool} {contact : Contact}
    (alike : ∀ member : Contact, member.Same contact → keep member = keep contact)
    (contacts : List Contact) :
    contact.declarationIn (contacts.filter keep) =
      if keep contact then contact.declarationIn contacts else none := by
  induction contacts with
  | nil => simp
  | cons head rest inductionHypothesis =>
      by_cases same : head.Same contact
      · rw [declarationIn_cons_same same, List.filter_cons, alike head same]
        by_cases kept : keep contact
        · rw [if_pos kept, if_pos kept, declarationIn_cons_same same]
        · rw [if_neg kept, if_neg kept, inductionHypothesis, if_neg kept]
      · rw [declarationIn_cons_other same, List.filter_cons, ← inductionHypothesis]
        by_cases kept : keep head
        · rw [if_pos kept, declarationIn_cons_other same]
        · rw [if_neg kept]

/-- Of an ascending list each member is the only declaration of its contact. -/
theorem declarationIn_of_mem {contact : Contact} {contacts : List Contact}
    (ascending : Ascending contacts) (member : contact ∈ contacts) :
    contact.declarationIn contacts = some contact := by
  induction contacts with
  | nil => cases member
  | cons head rest inductionHypothesis =>
      obtain ⟨headBelow, restAscending⟩ := List.pairwise_cons.mp ascending
      rcases List.mem_cons.mp member with rfl | inRest
      · exact declarationIn_cons_same (Same.refl contact) rest
      · have other := not_same_of_rank_lt (headBelow contact inRest)
        rw [declarationIn_cons_other other, inductionHypothesis restAscending inRest]

/-- No two members of an ascending list declare the same contact. -/
theorem Ascending.apart {contacts : List Contact} (ascending : Ascending contacts) :
    contacts.Pairwise fun left right => ¬left.Same right :=
  ascending.imp not_same_of_rank_lt

/-- Ascending lists with the same members are equal. -/
theorem Ascending.eq_of_mem_iff {left right : List Contact} (leftAscending : Ascending left)
    (rightAscending : Ascending right) (sameMembers : ∀ contact, contact ∈ left ↔ contact ∈ right) :
    left = right := by
  have permuted : left.Perm right :=
    (List.perm_ext_iff_of_nodup leftAscending.nodup rightAscending.nodup).mpr sameMembers
  apply permuted.eq_of_pairwise _ leftAscending rightAscending
  intro first second _ _ below above
  exact absurd above (Nat.lt_asymm below)

/-- Ascending lists that declare every contact in the same way are equal. -/
theorem Ascending.eq_of_declarationIn_eq {left right : List Contact}
    (leftAscending : Ascending left) (rightAscending : Ascending right)
    (alike : ∀ contact : Contact, contact.declarationIn left = contact.declarationIn right) :
    left = right := by
  apply leftAscending.eq_of_mem_iff rightAscending
  intro contact
  constructor
  · intro member
    have found := declarationIn_of_mem leftAscending member
    rw [alike] at found
    exact mem_of_declarationIn found
  · intro member
    have found := declarationIn_of_mem rightAscending member
    rw [← alike] at found
    exact mem_of_declarationIn found

/-- The canonical declarations of an ascending list ascend as well. -/
theorem Ascending.map_canonical {contacts : List Contact} (ascending : Ascending contacts) :
    Ascending (contacts.map canonical) := by
  apply List.pairwise_map.mpr
  apply ascending.imp
  intro first second below
  rw [rank_eq_iff.mpr first.canonical_same, rank_eq_iff.mpr second.canonical_same]
  exact below

/-- An insertion adds one contact at most. -/
theorem length_insertInto_le (contact : Contact) (contacts : List Contact) :
    (contact.insertInto contacts).length ≤ contacts.length + 1 := by
  induction contacts with
  | nil => exact Nat.le_refl _
  | cons head rest inductionHypothesis =>
      rw [insertInto]
      split_ifs
      · exact Nat.le_refl _
      · exact Nat.le_succ _
      · exact Nat.succ_le_succ inductionHypothesis

/-- A contact below all others is inserted before them. -/
theorem insertInto_of_below {contact : Contact} {contacts : List Contact}
    (below : ∀ member ∈ contacts, contact.rank < member.rank) :
    contact.insertInto contacts = contact :: contacts := by
  cases contacts with
  | nil => rfl
  | cons head rest => rw [insertInto, if_pos (below head List.mem_cons_self)]

end Contact

namespace ContactSet

/-- The declaration that a set has of a contact. -/
def declaration? (set : ContactSet) (contact : Contact) : Option Contact :=
  contact.declarationIn set.members

/-- A set contains a contact when it has a declaration of it. -/
theorem contains_eq (set : ContactSet) (contact : Contact) :
    set.contains contact = (set.declaration? contact).isSome :=
  List.isSome_find?.symm

/-- A set contains a contact in whichever way it is declared. -/
theorem contains_iff {set : ContactSet} {contact : Contact} :
    set.contains contact ↔ ∃ member ∈ set.members, member.Same contact := by
  unfold contains
  simp only [List.any_eq_true, decide_eq_true_eq]

theorem contains_of_mem {set : ContactSet} {contact : Contact} (member : contact ∈ set.members) :
    set.contains contact :=
  contains_iff.mpr ⟨contact, member, Contact.Same.refl contact⟩

/-- The members are the declarations that a set has. -/
theorem mem_members_iff {set : ContactSet} {contact : Contact} :
    contact ∈ set.members ↔ set.declaration? contact = some contact :=
  ⟨Contact.declarationIn_of_mem set.ascending, Contact.mem_of_declarationIn⟩

/-- A set that has a contact has its other declaration as well. -/
theorem contains_congr {set : ContactSet} {left right : Contact} (same : left.Same right) :
    set.contains left ↔ set.contains right := by
  simp only [contains_iff, same.congr_right]

/-- Sets that declare every contact in the same way are equal. -/
theorem eq_of_declaration?_eq {left right : ContactSet}
    (alike : ∀ contact, left.declaration? contact = right.declaration? contact) : left = right :=
  ContactSet.ext (left.ascending.eq_of_declarationIn_eq right.ascending alike)

/-- An insertion does not replace a declaration. -/
theorem declaration?_insert (set : ContactSet) (inserted contact : Contact) :
    (set.insert inserted).declaration? contact =
      (set.declaration? contact).or (contact.declarationIn [inserted]) :=
  Contact.declarationIn_insertInto inserted contact set.ascending

/-- An extension does not replace a declaration, and of the new ones the first counts. -/
theorem declaration?_extend (set : ContactSet) (contacts : List Contact) (contact : Contact) :
    (set.extend contacts).declaration? contact =
      (set.declaration? contact).or (contact.declarationIn contacts) := by
  induction contacts generalizing set with
  | nil => exact (Option.or_none).symm
  | cons first rest inductionHypothesis =>
      have extended := inductionHypothesis (set.insert first)
      rw [declaration?_insert, Option.or_assoc] at extended
      have split : (contact.declarationIn [first]).or (contact.declarationIn rest) =
          contact.declarationIn (first :: rest) := by
        by_cases same : first.Same contact
        · rw [Contact.declarationIn_cons_same same, Contact.declarationIn_cons_same same]
          rfl
        · rw [Contact.declarationIn_cons_other same, Contact.declarationIn_cons_other same]
          rfl
      rw [split] at extended
      exact extended

/-- Of the declarations in a list the last one counts. -/
theorem declaration?_ofList (contacts : List Contact) (contact : Contact) :
    (ContactSet.ofList contacts).declaration? contact =
      contact.declarationIn contacts.reverse := by
  induction contacts with
  | nil => rfl
  | cons first rest inductionHypothesis =>
      change ((ContactSet.ofList rest).insert first).declaration? contact = _
      rw [declaration?_insert, inductionHypothesis, List.reverse_cons,
        Contact.declarationIn_append]

/-- The first set has the say about a contact of both. -/
theorem declaration?_union (set other : ContactSet) (contact : Contact) :
    (set.union other).declaration? contact =
      (set.declaration? contact).or (other.declaration? contact) :=
  declaration?_extend set other.members contact

/-- A difference keeps the declarations of what is not taken away. -/
theorem declaration?_difference (set other : ContactSet) (contact : Contact) :
    (set.difference other).declaration? contact =
      if other.contains contact then none else set.declaration? contact := by
  have alike (member : Contact) (same : member.Same contact) :
      (!other.contains member) = !other.contains contact := by
    rw [Bool.eq_iff_iff.mpr (contains_congr same)]
  have filtered := Contact.declarationIn_filter alike set.members
  by_cases present : other.contains contact
  · rw [present] at filtered
    rw [if_pos present]
    exact filtered
  · rw [eq_false_of_ne_true present] at filtered
    rw [if_neg present]
    exact filtered

/-- The valid contacts keep their declarations. -/
theorem declaration?_valid (set : ContactSet) (contact : Contact) :
    set.valid.declaration? contact =
      if contact.isValid then set.declaration? contact else none :=
  Contact.declarationIn_filter (fun _ same => same.isValid_eq) set.members

theorem contains_union (set other : ContactSet) (contact : Contact) :
    (set.union other).contains contact = (set.contains contact || other.contains contact) := by
  rw [contains_eq, declaration?_union, Option.isSome_or, contains_eq, contains_eq]

theorem contains_difference (set other : ContactSet) (contact : Contact) :
    (set.difference other).contains contact =
      (set.contains contact && !other.contains contact) := by
  rw [contains_eq, declaration?_difference]
  by_cases present : other.contains contact
  · rw [if_pos present, present, Bool.not_true, Bool.and_false]
    rfl
  · rw [if_neg present, eq_false_of_ne_true present, Bool.not_false, Bool.and_true, contains_eq]

theorem contains_valid (set : ContactSet) (contact : Contact) :
    set.valid.contains contact = (contact.isValid && set.contains contact) := by
  rw [contains_eq, declaration?_valid]
  by_cases isValid : contact.isValid
  · rw [if_pos isValid, isValid, Bool.true_and, contains_eq]
  · rw [if_neg isValid, eq_false_of_ne_true isValid, Bool.false_and]
    rfl

/-- Sets are the same when they have the same contacts. -/
theorem same_of_contains_eq {left right : ContactSet}
    (alike : ∀ contact, left.contains contact = right.contains contact) : left.Same right := by
  have included {left right : ContactSet}
      (alike : ∀ contact, left.contains contact = right.contains contact) {contact : Contact}
      (member : contact ∈ left.members.map Contact.canonical) :
      contact ∈ right.members.map Contact.canonical := by
    obtain ⟨declared, isMember, rfl⟩ := List.mem_map.mp member
    have isRight := contains_of_mem isMember
    rw [alike] at isRight
    obtain ⟨other, isOther, same⟩ := contains_iff.mp isRight
    exact List.mem_map.mpr ⟨other, isOther, same⟩
  apply left.ascending.map_canonical.eq_of_mem_iff right.ascending.map_canonical
  intro contact
  exact ⟨included alike, included fun contact => (alike contact).symm⟩

/-- A set is rebuilt from its members. -/
theorem ofList_members (set : ContactSet) : ofList set.members = set := by
  have rebuilt {contacts : List Contact} (ascending : Contact.Ascending contacts) :
      (ofList contacts).members = contacts := by
    induction contacts with
    | nil => rfl
    | cons head rest inductionHypothesis =>
        obtain ⟨headBelow, restAscending⟩ := List.pairwise_cons.mp ascending
        change head.insertInto (ofList rest).members = head :: rest
        rw [inductionHypothesis restAscending, Contact.insertInto_of_below headBelow]
  exact ContactSet.ext (rebuilt set.ascending)

/-- No contact of a list counts twice. -/
theorem size_ofList_le (contacts : List Contact) : (ofList contacts).size ≤ contacts.length := by
  induction contacts with
  | nil => exact Nat.le_refl _
  | cons head rest inductionHypothesis =>
      exact Nat.le_trans (head.length_insertInto_le _) (Nat.succ_le_succ inductionHypothesis)

theorem valid_valid (set : ContactSet) : set.valid.valid = set.valid :=
  ContactSet.ext (by simp [valid])

end ContactSet

end ContactPlan
