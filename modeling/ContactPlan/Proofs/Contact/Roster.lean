import ContactPlan.Proofs.Contact.Set
import Mathlib.Data.Finmap

/-
This file compares sets of contacts with finite maps.
The key of a contact is its canonical declaration, and a map has the declaration that was kept.
-/

namespace ContactPlan

namespace Contact

theorem canonical_canonical (contact : Contact) : contact.canonical.canonical = contact.canonical :=
  contact.canonical_same

/-- The declarations that stand for their contacts. -/
abbrev Key := { contact : Contact // contact.canonical = contact }

def key (contact : Contact) : Key := ⟨contact.canonical, contact.canonical_canonical⟩

/-- Both declarations of a contact have one key, and other contacts have other keys. -/
theorem key_eq_iff {left right : Contact} : left.key = right.key ↔ left.Same right :=
  Subtype.mk_eq_mk

/-- A key is the key of its declaration. -/
theorem key_val (key : Key) : key.val.key = key := Subtype.ext key.property

/-- What is found in a list is a declaration of the contact. -/
theorem same_of_declarationIn {contact declared : Contact} {contacts : List Contact}
    (found : contact.declarationIn contacts = some declared) : declared.Same contact := by
  simpa using List.find?_some found

end Contact

/-- A roster has one declaration for each of its keys. -/
abbrev Roster := Finmap fun _ : Contact.Key => Contact

namespace Roster

/-- A newer declaration replaces an older one. -/
def put (roster : Roster) (contact : Contact) : Roster := Finmap.insert contact.key contact roster

/-- A declaration that is present already stays. -/
def add (roster : Roster) (contact : Contact) : Roster :=
  if contact.key ∈ roster then roster else roster.put contact

/-- Of several declarations of one contact the last is kept. -/
def ofList (contacts : List Contact) : Roster := contacts.foldl put ∅

/-- Of several declarations of one contact the first is kept. -/
def addAll (roster : Roster) (contacts : List Contact) : Roster := contacts.foldl add roster

/-- A contact that is put replaces its earlier declaration. -/
theorem lookup_put (roster : Roster) (inserted contact : Contact) :
    (roster.put inserted).lookup contact.key =
      (contact.declarationIn [inserted]).or (roster.lookup contact.key) := by
  unfold put
  by_cases same : inserted.Same contact
  · rw [Contact.declarationIn_cons_same same, Contact.key_eq_iff.mpr same, Finmap.lookup_insert]
    rfl
  · have other : contact.key ≠ inserted.key :=
      fun equal => same (Contact.key_eq_iff.mp equal.symm)
    rw [Contact.declarationIn_cons_other same, Finmap.lookup_insert_of_ne _ other]
    rfl

/-- A contact that is added does not replace its earlier declaration. -/
theorem lookup_add (roster : Roster) (inserted contact : Contact) :
    (roster.add inserted).lookup contact.key =
      (roster.lookup contact.key).or (contact.declarationIn [inserted]) := by
  unfold add
  by_cases same : inserted.Same contact
  · rw [Contact.key_eq_iff.mpr same]
    split
    next present =>
      obtain ⟨declared, found⟩ := Finmap.mem_iff.mp present
      rw [found]
      rfl
    next absent =>
      rw [lookup_put, Finmap.lookup_eq_none.mpr absent, Option.or_none]
      rfl
  · rw [Contact.declarationIn_cons_other same, Contact.declarationIn_nil, Option.or_none]
    split
    · rfl
    · rw [lookup_put, Contact.declarationIn_cons_other same]
      rfl

/-- Of several declarations of one contact a roster has the last. -/
theorem lookup_ofList (contacts : List Contact) (contact : Contact) :
    (ofList contacts).lookup contact.key = contact.declarationIn contacts.reverse := by
  have folded (contacts : List Contact) (roster : Roster) :
      (contacts.foldl put roster).lookup contact.key =
        (contact.declarationIn contacts.reverse).or (roster.lookup contact.key) := by
    induction contacts generalizing roster with
    | nil => rfl
    | cons first rest inductionHypothesis =>
        rw [List.foldl_cons, inductionHypothesis, lookup_put, List.reverse_cons,
          Contact.declarationIn_append, Option.or_assoc]
  have whole := folded contacts ∅
  rw [Finmap.lookup_empty, Option.or_none] at whole
  exact whole

theorem lookup_union (left right : Roster) (key : Contact.Key) :
    (left ∪ right).lookup key = (left.lookup key).or (right.lookup key) := by
  by_cases present : key ∈ left
  · obtain ⟨declared, found⟩ := Finmap.mem_iff.mp present
    rw [Finmap.lookup_union_left present, found]
    rfl
  · rw [Finmap.lookup_union_right present, Finmap.lookup_eq_none.mpr present]
    rfl

/-- A difference has no key of what is taken away. -/
theorem lookup_sdiff (left right : Roster) (key : Contact.Key) :
    (left \ right).lookup key = if key ∈ right then none else left.lookup key := by
  have folded (entries : List ((_ : Contact.Key) × Contact)) (roster : Roster) :
      (entries.foldl (fun roster entry => roster.erase entry.1) roster).lookup key =
        if key ∈ entries.keys then none else roster.lookup key := by
    induction entries generalizing roster with
    | nil => rfl
    | cons first rest inductionHypothesis =>
        rw [List.foldl_cons, inductionHypothesis]
        by_cases isFirst : key = first.1
        · rw [isFirst, Finmap.lookup_erase]
          simp
        · rw [Finmap.lookup_erase_ne isFirst]
          simp [isFirst]
  induction right using Finmap.induction_on with
  | _ entries => exact (folded entries.entries left).trans (if_congr Iff.rfl rfl rfl)

end Roster

/-- A construction makes a set by operations on sets. -/
inductive Construction where
  | empty
  | ofList (contacts : List Contact)
  | insert (base : Construction) (contact : Contact)
  | extend (base : Construction) (contacts : List Contact)
  | union (first second : Construction)
  | difference (first second : Construction)

namespace Construction

def set : Construction → ContactSet
  | empty => ContactSet.empty
  | ofList contacts => ContactSet.ofList contacts
  | insert base contact => (base.set.insertNew contact).2
  | extend base contacts => base.set.extend contacts
  | union first second => first.set.union second.set
  | difference first second => first.set.difference second.set

/-- The same operations on maps. -/
def roster : Construction → Roster
  | empty => ∅
  | ofList contacts => Roster.ofList contacts
  | insert base contact => base.roster.add contact
  | extend base contacts => base.roster.addAll contacts
  | union first second => first.roster ∪ second.roster
  | difference first second => first.roster \ second.roster

end Construction

/-- A roster lists a set when both declare every contact in the same way. -/
def Roster.Lists (roster : Roster) (set : ContactSet) : Prop :=
  ∀ contact : Contact, roster.lookup contact.key = set.declaration? contact

namespace Roster.Lists

theorem empty : Lists ∅ ContactSet.empty := fun _ => Finmap.lookup_empty _

/-- A roster lists the set that is made of the same contacts. -/
theorem ofList (contacts : List Contact) :
    (Roster.ofList contacts).Lists (ContactSet.ofList contacts) := by
  intro contact
  rw [lookup_ofList, ContactSet.declaration?_ofList]

section

variable {roster : Roster} {set : ContactSet} (lists : roster.Lists set)
include lists

/-- An insertion into a set is an addition to its roster. -/
theorem insert (contact : Contact) : (roster.add contact).Lists (set.insert contact) := by
  intro other
  rw [lookup_add, lists, ContactSet.declaration?_insert]

/-- A set contains a contact when its roster has the key. -/
theorem mem_iff {contact : Contact} : contact.key ∈ roster ↔ set.contains contact := by
  rw [ContactSet.contains_eq, ← lists, Finmap.lookup_isSome]

/-- The union of two sets is that of their rosters. -/
theorem union {other : Roster} {otherSet : ContactSet} (otherLists : other.Lists otherSet) :
    (roster ∪ other).Lists (set.union otherSet) := by
  intro contact
  rw [lookup_union, lists, otherLists, ContactSet.declaration?_union]

/-- The members of a set are the declarations that its roster has. -/
theorem mem_members_iff {contact : Contact} :
    contact ∈ set.members ↔ roster.lookup contact.key = some contact := by
  rw [lists]
  exact ContactSet.mem_members_iff

/-- Every declaration stands under its own key. -/
theorem key_of_lookup {key : Contact.Key} {declared : Contact}
    (found : roster.lookup key = some declared) : declared.key = key := by
  rw [← Contact.key_val key, lists] at found
  rw [← Contact.key_val key, Contact.key_eq_iff]
  exact Contact.same_of_declarationIn found

/-- The keys of a roster are those of the members. -/
theorem keys_eq : roster.keys = (set.members.map Contact.key).toFinset := by
  ext key
  rw [Finmap.mem_keys, List.mem_toFinset, List.mem_map, ← Contact.key_val key, lists.mem_iff,
    ContactSet.contains_iff]
  simp only [Contact.key_eq_iff]

/-- A set is as large as its roster. -/
theorem size_eq : set.size = roster.keys.card := by
  have distinct : (set.members.map Contact.key).Nodup := by
    rw [List.Nodup, List.pairwise_map]
    exact set.ascending.apart.imp fun other equal => other (Contact.key_eq_iff.mp equal)
  rw [lists.keys_eq, List.toFinset_card_of_nodup distinct, List.length_map]
  rfl

theorem isEmpty_iff : set.isEmpty ↔ roster = ∅ := by
  rw [ContactSet.isEmpty, List.isEmpty_iff]
  constructor
  · intro noMembers
    apply Finmap.ext_lookup
    intro key
    rw [← Contact.key_val key, lists, ContactSet.declaration?, noMembers]
    rfl
  · intro noKeys
    apply List.eq_nil_iff_forall_not_mem.mpr
    intro contact member
    rw [lists.mem_members_iff, noKeys] at member
    cases member

/-- The valid members are the valid declarations. -/
theorem mem_valid_iff {contact : Contact} :
    contact ∈ set.valid.members ↔ contact.isValid ∧ roster.lookup contact.key = some contact := by
  rw [← lists.mem_members_iff, and_comm]
  exact List.mem_filter

/-- Two sets are the same when their maps have the same keys. -/
theorem same_iff {other : Roster} {otherSet : ContactSet} (otherLists : other.Lists otherSet) :
    set.Same otherSet ↔ roster.keys = other.keys := by
  constructor
  · intro same
    have members (key : Contact.Key) (contacts : List Contact) :
        key ∈ contacts.map Contact.key ↔ key.val ∈ contacts.map Contact.canonical := by
      simp only [List.mem_map, Subtype.ext_iff, Contact.key]
    rw [lists.keys_eq, otherLists.keys_eq]
    ext key
    rw [List.mem_toFinset, List.mem_toFinset, members, members, same]
  · intro equal
    apply ContactSet.same_of_contains_eq
    intro contact
    apply Bool.eq_iff_iff.mpr
    rw [← lists.mem_iff, ← otherLists.mem_iff, ← Finmap.mem_keys, ← Finmap.mem_keys, equal]

end

/-- The difference of two sets is that of their rosters. -/
theorem difference {roster other : Roster} {set otherSet : ContactSet} (lists : roster.Lists set)
    (otherLists : other.Lists otherSet) : (roster \ other).Lists (set.difference otherSet) := by
  intro contact
  rw [lookup_sdiff, lists, ContactSet.declaration?_difference]
  simp only [otherLists.mem_iff]

/-- An extension of a set adds the contacts to its roster one after the other. -/
theorem extend {roster : Roster} {set : ContactSet} (lists : roster.Lists set)
    (contacts : List Contact) : (roster.addAll contacts).Lists (set.extend contacts) := by
  induction contacts generalizing roster set with
  | nil => exact lists
  | cons first rest inductionHypothesis => exact inductionHypothesis (lists.insert first)

end Roster.Lists

/-- Whatever is constructed, the map lists the set. -/
theorem Construction.lists (construction : Construction) :
    construction.roster.Lists construction.set := by
  induction construction with
  | empty => exact Roster.Lists.empty
  | ofList contacts => exact Roster.Lists.ofList contacts
  | insert base contact inductionHypothesis => exact inductionHypothesis.insert contact
  | extend base contacts inductionHypothesis => exact inductionHypothesis.extend contacts
  | union first second fromFirst fromSecond => exact fromFirst.union fromSecond
  | difference first second fromFirst fromSecond => exact fromFirst.difference fromSecond

/-- A set that is made by any operations goes through its contacts in strictly ascending order and
has the declarations of the map that is made by the same operations. -/
theorem Construction.set_agrees (construction : Construction) :
    let set := construction.set
    let roster := construction.roster
    set.members.Pairwise (fun left right => left.order right = .lt ∧ ¬left.Same right) ∧
    (∀ contact, contact ∈ set.members ↔ roster.lookup contact.key = some contact) ∧
    (∀ key declared, roster.lookup key = some declared → declared.key = key) ∧
    (∀ contact, set.contains contact ↔ contact.key ∈ roster) ∧
    (∀ contact, (set.insertNew contact).1 ↔ contact.key ∉ roster) ∧
    set.size = roster.keys.card ∧ (set.isEmpty ↔ roster = ∅) ∧
    set.valid.members.Sublist set.members ∧
    (∀ contact, contact ∈ set.valid.members ↔
      contact.isValid ∧ roster.lookup contact.key = some contact) ∧
    ∀ other : Construction, set.Same other.set ↔ roster.keys = other.roster.keys := by
  intro set roster
  have lists : roster.Lists set := construction.lists
  refine ⟨?_, fun _ => lists.mem_members_iff, fun _ _ => lists.key_of_lookup,
    fun _ => lists.mem_iff.symm, ?_, lists.size_eq, lists.isEmpty_iff, List.filter_sublist,
    fun _ => lists.mem_valid_iff, fun other => lists.same_iff other.lists⟩
  · apply set.ascending.imp
    intro left right below
    constructor
    · exact Nat.compare_eq_lt.mpr below
    · intro same
      exact Nat.ne_of_lt below (Contact.rank_eq_iff.mpr same)
  · intro contact
    rw [lists.mem_iff, Bool.not_eq_true, ← Bool.not_eq_true']
    rfl

/-- Of two declarations in a list the last is kept, and of two insertions the first. -/
example :
    let contact : Contact := ⟨1000, 500, ⟨10, ⟨1⟩⟩, ⟨20, ⟨2⟩⟩⟩
    (Construction.ofList [contact, contact.flip]).set.members = [contact.flip] ∧
      (Construction.extend .empty [contact, contact.flip]).set.members = [contact] := by
  decide

end ContactPlan
