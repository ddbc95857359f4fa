import ContactPlan.Contact.Basic

namespace ContactPlan

/-- A list ascends when every contact comes before all that follow it. -/
def Contact.Ascending (contacts : List Contact) : Prop :=
  contacts.Pairwise fun left right => left.rank < right.rank

/-- A declaration that is present already stays. -/
def Contact.insertInto (contact : Contact) : List Contact → List Contact
  | [] => [contact]
  | head :: rest =>
      if contact.rank < head.rank then contact :: head :: rest
      else if contact.rank = head.rank then head :: rest
      else head :: contact.insertInto rest

/-- An insertion brings in no other contact. -/
theorem Contact.mem_of_mem_insertInto {contact other : Contact} {contacts : List Contact}
    (member : other ∈ contact.insertInto contacts) : other = contact ∨ other ∈ contacts := by
  induction contacts with
  | nil => simpa [insertInto] using member
  | cons head rest inductionHypothesis =>
      simp only [insertInto] at member
      split at member
      · simpa using member
      · split at member
        · exact .inr member
        · rcases List.mem_cons.mp member with isHead | inRest
          · simp [isHead]
          · rcases inductionHypothesis inRest with isContact | isMember
            · exact .inl isContact
            · exact .inr (List.mem_cons_of_mem _ isMember)

/-- An insertion keeps the canonical order. -/
theorem Contact.Ascending.insertInto {contacts : List Contact}
    (ascending : Contact.Ascending contacts) (contact : Contact) :
    Contact.Ascending (contact.insertInto contacts) := by
  induction contacts with
  | nil => simp [Contact.insertInto, Contact.Ascending]
  | cons head rest inductionHypothesis =>
      obtain ⟨headBelow, restAscending⟩ := List.pairwise_cons.mp ascending
      simp only [Contact.insertInto]
      split
      next below =>
        refine List.pairwise_cons.mpr ⟨fun other member => ?_, ascending⟩
        rcases List.mem_cons.mp member with isHead | inRest
        · exact isHead ▸ below
        · exact Nat.lt_trans below (headBelow other inRest)
      next notBelow =>
        split
        · exact ascending
        next different =>
          refine List.pairwise_cons.mpr
            ⟨fun other member => ?_, inductionHypothesis restAscending⟩
          rcases Contact.mem_of_mem_insertInto member with isContact | inRest
          · rw [isContact]
            omega
          · exact headBelow other inRest

/-- Of each contact a set holds one declaration, and its members ascend. -/
structure ContactSet where
  members : List Contact
  ascending : Contact.Ascending members

@[ext] theorem ContactSet.ext {left right : ContactSet} (equal : left.members = right.members) :
    left = right := by
  cases left
  cases right
  simp_all

def ContactSet.empty : ContactSet := ⟨[], List.Pairwise.nil⟩

def ContactSet.size (set : ContactSet) : Nat := set.members.length

def ContactSet.isEmpty (set : ContactSet) : Bool := set.members.isEmpty

/-- A contact is looked up by any of its declarations. -/
def ContactSet.contains (set : ContactSet) (contact : Contact) : Bool :=
  set.members.any fun member => member.Same contact

/-- The new declaration replaces the one that was there. -/
def ContactSet.insert (set : ContactSet) (contact : Contact) : ContactSet :=
  ⟨contact.insertInto set.members, set.ascending.insertInto contact⟩

/-- The flag tells whether the contact is new to the set. -/
def ContactSet.insertNew (set : ContactSet) (contact : Contact) : Bool × ContactSet :=
  (!set.contains contact, set.insert contact)

/-- The declarations that are present already stay. -/
def ContactSet.extend (set : ContactSet) (contacts : List Contact) : ContactSet :=
  contacts.foldl ContactSet.insert set

/-- Of several declarations of one contact the last stays. -/
def ContactSet.ofList (contacts : List Contact) : ContactSet :=
  contacts.foldr (fun contact set => set.insert contact) ContactSet.empty

/-- A contact of both sets keeps the declaration of the first. -/
def ContactSet.union (set other : ContactSet) : ContactSet := set.extend other.members

/-- The contacts of the first set that the second does not have. -/
def ContactSet.difference (set other : ContactSet) : ContactSet :=
  ⟨set.members.filter fun contact => !other.contains contact,
    List.Pairwise.sublist List.filter_sublist set.ascending⟩

/-- The valid contacts of a set keep their order. -/
def ContactSet.valid (set : ContactSet) : ContactSet :=
  ⟨set.members.filter Contact.isValid, List.Pairwise.sublist List.filter_sublist set.ascending⟩

/-- Sets are the same when they hold the same contacts, however declared. -/
def ContactSet.Same (left right : ContactSet) : Prop :=
  left.members.map Contact.canonical = right.members.map Contact.canonical

instance (left right : ContactSet) : Decidable (left.Same right) :=
  inferInstanceAs (Decidable (_ = _))

def ContactSet.text (set : ContactSet) : String :=
  "<ContactSet entries=" ++ Decimal.write set.size ++ ">"

end ContactPlan
