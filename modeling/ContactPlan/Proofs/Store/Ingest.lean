import ContactPlan.Proofs.Contact.Algebra
import ContactPlan.Proofs.Disk
import ContactPlan.Proofs.Store.Record

namespace ContactPlan

namespace Store

/-- The sets of new contacts are returned in the order of the ingested sets. -/
def ingestAll (disk : Disk) (path : String) :
    List ContactSet → Except Disk.Fault (List ContactSet × Disk)
  | [] => .ok ([], disk)
  | incoming :: rest =>
      match ingest disk path incoming with
      | .error fault => .error fault
      | .ok (new, disk) => (ingestAll disk path rest).map fun (news, disk) => (new :: news, disk)

/-- What is stored after a set has been ingested. -/
def merged (stored incoming : ContactSet) : ContactSet := (stored.union incoming.valid).valid

/-- Of a stored contact the stored declaration is kept. -/
theorem declaration?_merged (stored incoming : ContactSet) (contact : Contact) :
    (merged stored incoming).declaration? contact =
      if contact.isValid then
        (stored.declaration? contact).or (incoming.declaration? contact)
      else none := by
  rw [merged, ContactSet.declaration?_valid, ContactSet.declaration?_union,
    ContactSet.declaration?_valid]
  by_cases isValid : contact.isValid
  · rw [if_pos isValid, if_pos isValid, if_pos isValid]
  · rw [if_neg isValid, if_neg isValid]

/-- Valid contacts of either side are stored. -/
theorem contains_merged (stored incoming : ContactSet) (contact : Contact) :
    (merged stored incoming).contains contact =
      (contact.isValid && (stored.contains contact || incoming.contains contact)) := by
  rw [merged, ContactSet.contains_valid, ContactSet.contains_union, ContactSet.contains_valid]
  cases contact.isValid
  · rfl
  · rfl

/-- A contact is new when it is valid and has not been stored. -/
theorem contains_new (stored incoming : ContactSet) (contact : Contact) :
    (incoming.valid.difference stored).contains contact =
      (contact.isValid && incoming.contains contact && !stored.contains contact) := by
  rw [ContactSet.contains_difference, ContactSet.contains_valid]

/-- The file of the store consists of the records of a valid set, and it can be overwritten. -/
structure Keeps (disk : Disk) (path : String) (stored : ContactSet) : Prop where
  records : disk.read path = .ok (Record.writeAll stored.members)
  valid : stored.valid = stored
  writable : disk.Writable path

/-- A kept set is loaded. -/
theorem Keeps.load {disk : Disk} {path : String} {stored : ContactSet}
    (keeps : Keeps disk path stored) : Store.load disk path = .ok (some stored) := by
  have held := contents_image stored
  rw [image, keeps.valid] at held
  rw [Store.load, keeps.records]
  exact congrArg (fun set => Except.ok (some set)) held

/-- A kept set is loaded, and so it is not taken for a missing store. -/
theorem Keeps.loadOrEmpty {disk : Disk} {path : String} {stored : ContactSet}
    (keeps : Keeps disk path stored) : Store.loadOrEmpty disk path = .ok stored := by
  rw [Store.loadOrEmpty, keeps.load]
  rfl

/-- A save writes the image of the set, which can be read and overwritten. -/
theorem save_of_writable {disk : Disk} {path : String} (writable : disk.Writable path)
    (set : ContactSet) :
    ∃ next, disk.write path (image set) = .ok next ∧
      save disk path set = .ok (set.valid.size, next) ∧ next.read path = .ok (image set) ∧
      next.Writable path := by
  obtain ⟨next, written, reads, writableAgain⟩ := writable.write (image set)
  have saved : save disk path set = .ok (set.valid.size, next) := by
    rw [save, written]
    rfl
  exact ⟨next, written, saved, reads, writableAgain⟩

/-- Whatever was stored before, the file consists of the merged contacts afterwards. -/
theorem ingest_keeps {disk : Disk} {path : String} {stored : ContactSet}
    (loads : loadOrEmpty disk path = .ok stored) (writable : disk.Writable path)
    (incoming : ContactSet) :
    ∃ next, ingest disk path incoming = .ok (incoming.valid.difference stored, next) ∧
      Keeps next path (merged stored incoming) := by
  obtain ⟨next, -, saved, reads, writableAgain⟩ :=
    save_of_writable writable (stored.union incoming.valid)
  refine ⟨next, ?_, reads, ContactSet.valid_valid _, writableAgain⟩
  simp only [ingest, loads, saved]

/-- An ingestion that succeeds has merged its set into what was stored. -/
theorem keeps_of_ingest {disk next : Disk} {path : String} {incoming new : ContactSet}
    (ingested : ingest disk path incoming = .ok (new, next)) :
    ∃ stored, loadOrEmpty disk path = .ok stored ∧ new = incoming.valid.difference stored ∧
      Keeps next path (merged stored incoming) := by
  have found := ingested
  unfold ingest at found
  cases loads : loadOrEmpty disk path with
  | error fault =>
      rw [loads] at found
      cases found
  | ok stored =>
      rw [loads] at found
      cases written : disk.write path (image (stored.union incoming.valid)) with
      | error fault =>
          simp only [save, written] at found
          cases found
      | ok other =>
          obtain ⟨middle, again, keeps⟩ :=
            ingest_keeps loads (Disk.writable_of_write written) incoming
          cases again.symm.trans ingested
          exact ⟨stored, rfl, rfl, keeps⟩

/-- What a store has collected from its initial contacts and the sets that were ingested. -/
structure Collects (initial : ContactSet) (sets news : List ContactSet) (stored : ContactSet) :
    Prop where
  /-- The first set that has a valid contact tells how it is declared. -/
  declared : ∀ contact, stored.declaration? contact =
    if contact.isValid then
      (initial :: sets).findSome? fun set => set.declaration? contact
    else none
  /-- No contact is new twice or new although it was stored. -/
  apart : (initial :: news).Pairwise ContactSet.Disjoint
  /-- Nothing is stored that was neither there nor new. -/
  complete : ∀ contact, stored.contains contact =
    (initial.valid :: news).any fun set => set.contains contact

/-- Nothing is collected when nothing is ingested. -/
theorem collects_nil {stored : ContactSet} (valid : stored.valid = stored) :
    Collects stored [] [] stored where
  declared contact := by
    have alone : ([stored].findSome? fun set => set.declaration? contact) =
        stored.declaration? contact := by
      rw [List.findSome?_cons]
      cases stored.declaration? contact <;> rfl
    rw [alone, ← ContactSet.declaration?_valid, valid]
  apart := List.pairwise_singleton _ _
  complete contact := by
    rw [List.any_cons, List.any_nil, Bool.or_false, valid]

/-- Only valid contacts are new. -/
theorem Collects.isValid_of_new {initial stored : ContactSet} {sets news : List ContactSet}
    (collects : Collects initial sets news stored) {new : ContactSet} (isNew : new ∈ news)
    {contact : Contact} (present : new.contains contact) : contact.isValid := by
  have isStored : stored.contains contact := by
    rw [collects.complete, List.any_cons, Bool.or_eq_true]
    exact .inr (List.any_eq_true.mpr ⟨new, isNew, present⟩)
  rw [ContactSet.contains_eq, collects.declared] at isStored
  by_contra invalid
  rw [if_neg invalid] at isStored
  cases isStored

/-- The first set to be ingested is merged before all others. -/
theorem Collects.cons {initial incoming stored : ContactSet} {sets news : List ContactSet}
    (collects : Collects (merged initial incoming) sets news stored) :
    Collects initial (incoming :: sets) (incoming.valid.difference initial :: news) stored := by
  have isMerged {contact : Contact} (isValid : contact.isValid)
      (present : initial.contains contact ∨ incoming.contains contact) :
      (merged initial incoming).contains contact := by
    rw [contains_merged, isValid, Bool.true_and, Bool.or_eq_true]
    exact present
  obtain ⟨mergedApart, newsApart⟩ := List.pairwise_cons.mp collects.apart
  refine ⟨?_, ?_, ?_⟩
  · intro contact
    rw [collects.declared]
    by_cases isValid : contact.isValid
    · rw [if_pos isValid, if_pos isValid, List.findSome?_cons, List.findSome?_cons,
        List.findSome?_cons, declaration?_merged, if_pos isValid]
      cases initial.declaration? contact <;> rfl
    · rw [if_neg isValid, if_neg isValid]
  · refine List.pairwise_cons.mpr ⟨?_, List.pairwise_cons.mpr ⟨?_, newsApart⟩⟩
    · intro new isNew contact wasStored present
      rcases List.mem_cons.mp isNew with rfl | isLater
      · rw [contains_new, wasStored, Bool.not_true, Bool.and_false] at present
        cases present
      · have isValid := collects.isValid_of_new isLater present
        exact mergedApart new isLater contact (isMerged isValid (.inl wasStored)) present
    · intro new isNew contact isFirst present
      rw [contains_new, Bool.and_eq_true, Bool.and_eq_true] at isFirst
      obtain ⟨⟨isValid, isIncoming⟩, -⟩ := isFirst
      exact mergedApart new isNew contact (isMerged isValid (.inr isIncoming)) present
  · intro contact
    rw [collects.complete, List.any_cons, List.any_cons, List.any_cons, ← Bool.or_assoc]
    congr 1
    rw [ContactSet.contains_valid, ContactSet.contains_valid, contains_merged, contains_new]
    cases contact.isValid <;> cases initial.contains contact <;>
      cases incoming.contains contact <;> rfl

/-- What is collected are the valid contacts of all sets. -/
theorem Collects.contains {initial stored : ContactSet} {sets news : List ContactSet}
    (collects : Collects initial sets news stored) (contact : Contact) :
    stored.contains contact =
      (contact.isValid && (initial :: sets).any fun set => set.contains contact) := by
  rw [ContactSet.contains_eq, collects.declared]
  by_cases isValid : contact.isValid
  · rw [if_pos isValid, isValid, Bool.true_and, List.isSome_findSome?]
    simp only [ContactSet.contains_eq]
  · rw [if_neg isValid, eq_false_of_ne_true isValid, Bool.false_and]
    rfl

/-- The order of the sets does not matter for what is stored. -/
theorem Collects.same_of_perm {initial stored other : ContactSet}
    {sets permuted news otherNews : List ContactSet}
    (collects : Collects initial sets news stored)
    (otherCollects : Collects initial permuted otherNews other) (permutes : permuted.Perm sets) :
    other.Same stored := by
  apply ContactSet.same_of_contains_eq
  intro contact
  rw [otherCollects.contains, collects.contains, (permutes.cons initial).any_eq]

/-- The first set is ingested before the others. -/
theorem ingestAll_cons (disk : Disk) (path : String) (incoming : ContactSet)
    (sets : List ContactSet) :
    ingestAll disk path (incoming :: sets) =
      match ingest disk path incoming with
      | .error fault => .error fault
      | .ok (new, next) =>
          (ingestAll next path sets).map fun (news, final) => (new :: news, final) := rfl

/-- Two successes make one. -/
theorem ingestAll_cons_ok {disk middle final : Disk} {path : String} {incoming new : ContactSet}
    {sets news : List ContactSet} (ingested : ingest disk path incoming = .ok (new, middle))
    (succeeded : ingestAll middle path sets = .ok (news, final)) :
    ingestAll disk path (incoming :: sets) = .ok (new :: news, final) := by
  rw [ingestAll_cons, ingested]
  simp only [succeeded]
  rfl

/-- The ingestions of a list of sets succeed one after the other. -/
theorem Keeps.ingestAll {disk : Disk} {path : String} {stored : ContactSet}
    (keeps : Keeps disk path stored) (sets : List ContactSet) :
    ∃ news final collected, Store.ingestAll disk path sets = .ok (news, final) ∧
      Keeps final path collected ∧ Collects stored sets news collected := by
  induction sets generalizing disk stored with
  | nil => exact ⟨[], disk, stored, rfl, keeps, collects_nil keeps.valid⟩
  | cons incoming rest inductionHypothesis =>
      obtain ⟨middle, ingested, keepsMiddle⟩ :=
        ingest_keeps keeps.loadOrEmpty keeps.writable incoming
      obtain ⟨news, final, collected, succeeded, keepsFinal, collects⟩ :=
        inductionHypothesis keepsMiddle
      exact ⟨_, final, collected, ingestAll_cons_ok ingested succeeded, keepsFinal, collects.cons⟩

/-- The first ingestion leaves a file of records, whatever it finds. -/
theorem ingestAll_keeps {disk : Disk} {path : String} {initial : ContactSet}
    (loads : loadOrEmpty disk path = .ok initial) (writable : disk.Writable path)
    {sets : List ContactSet} (any : sets ≠ []) :
    ∃ news final collected, ingestAll disk path sets = .ok (news, final) ∧
      Keeps final path collected ∧ Collects initial sets news collected := by
  obtain ⟨first, rest, rfl⟩ := List.exists_cons_of_ne_nil any
  obtain ⟨middle, ingested, keeps⟩ := ingest_keeps loads writable first
  obtain ⟨news, final, collected, succeeded, keepsFinal, collects⟩ := keeps.ingestAll rest
  exact ⟨_, final, collected, ingestAll_cons_ok ingested succeeded, keepsFinal, collects.cons⟩

/-- A set whose valid contacts are all stored adds nothing, and the file stays as it is. -/
theorem Keeps.ingest_again {disk : Disk} {path : String} {stored : ContactSet}
    (keeps : Keeps disk path stored) {again : ContactSet}
    (known : ∀ contact, again.valid.contains contact → stored.contains contact) :
    ∃ same, ingest disk path again = .ok (ContactSet.empty, same) ∧
      same.read path = disk.read path := by
  obtain ⟨same, ingested, keepsSame⟩ := ingest_keeps keeps.loadOrEmpty keeps.writable again
  rw [merged, ContactSet.union_eq_left_iff.mpr known, keeps.valid] at keepsSame
  rw [ContactSet.difference_eq_empty_iff.mpr known] at ingested
  exact ⟨same, ingested, keepsSame.records.trans keeps.records.symm⟩

/-- Whatever the file held at first, a store that can be read and written takes any sets one after
the other and then holds what it has collected, as records in canonical order.
Nothing that is stored is ever new again, and another order of the sets stores the same contacts. -/
theorem ingestAll_collects {disk written : Disk} {path : String} {bytes : List UInt8}
    {initial : ContactSet} (loads : loadOrEmpty disk path = .ok initial)
    (writes : disk.write path bytes = .ok written) {sets : List ContactSet} (any : sets ≠ []) :
    ∃ news final stored, ingestAll disk path sets = .ok (news, final) ∧
      load final path = .ok (some stored) ∧ Collects initial sets news stored ∧
      (∀ contact, stored.contains contact =
        (contact.isValid && (initial :: sets).any fun set => set.contains contact)) ∧
      final.read path = .ok (Record.writeAll stored.members) ∧
      (Record.writeAll stored.members).length = 32 * stored.size ∧
      (∀ again : ContactSet,
        (∀ contact, again.valid.contains contact → stored.contains contact) →
        ∃ same, ingest final path again = .ok (ContactSet.empty, same) ∧
          same.read path = final.read path) ∧
      ∀ permuted : List ContactSet, permuted.Perm sets →
        ∃ otherNews otherFinal other,
          ingestAll disk path permuted = .ok (otherNews, otherFinal) ∧
          load otherFinal path = .ok (some other) ∧ other.Same stored := by
  have writable := Disk.writable_of_write writes
  obtain ⟨news, final, stored, succeeded, keeps, collects⟩ := ingestAll_keeps loads writable any
  refine ⟨news, final, stored, succeeded, keeps.load, collects, collects.contains, keeps.records,
    Record.length_writeAll _, fun again known => keeps.ingest_again known, ?_⟩
  intro permuted permutes
  have anyPermuted : permuted ≠ [] := by
    rintro rfl
    exact any permutes.symm.eq_nil
  obtain ⟨otherNews, otherFinal, other, otherSucceeded, otherKeeps, otherCollects⟩ :=
    ingestAll_keeps loads writable anyPermuted
  exact ⟨otherNews, otherFinal, other, otherSucceeded, otherKeeps.load,
    collects.same_of_perm otherCollects permutes⟩

/-- The first file has this contact from both sides. -/
def kept : Contact :=
  { start := 1000
    duration := 60
    first := ⟨10, ⟨1⟩⟩
    second := ⟨20, ⟨2⟩⟩ }

/-- Two sets bring this contact from different sides. -/
def brought : Contact :=
  { start := 500
    duration := 60
    first := ⟨40, ⟨4⟩⟩
    second := ⟨30, ⟨3⟩⟩ }

/-- An invalid record and a record that is not whole end the file. -/
def untidy : Disk :=
  ⟨["home"], [(["home", "contacts"],
    .file (Record.writeAll [kept, kept.flip, { brought with duration := 0 }] ++ [1, 2, 3]))]⟩

/-- The last record of a contact and the first set with a contact tell how it is declared. -/
theorem ingestAll_collects_untidy :
    loadOrEmpty untidy "contacts" =
        .ok (contents (Record.writeAll [kept, kept.flip, { brought with duration := 0 }] ++
          [1, 2, 3])) ∧
      ∃ news final stored,
        ingestAll untidy "contacts"
          [ContactSet.ofList [kept, brought], ContactSet.ofList [brought.flip]] =
            .ok (news, final) ∧
        load final "contacts" = .ok (some stored) ∧
        stored.declaration? kept = some kept.flip ∧
        stored.declaration? brought = some brought ∧
        (Record.writeAll stored.members).length = 32 * stored.size := by
  have loads : loadOrEmpty untidy "contacts" =
      .ok (contents (Record.writeAll [kept, kept.flip, { brought with duration := 0 }] ++
        [1, 2, 3])) := rfl
  have writes : untidy.write "contacts" [] = .ok (untidy.put ["home", "contacts"] (.file [])) := rfl
  obtain ⟨news, final, stored, succeeded, loaded, collects, -, -, size, -, -⟩ :=
    ingestAll_collects loads writes
      (List.cons_ne_nil (ContactSet.ofList [kept, brought]) [ContactSet.ofList [brought.flip]])
  have keptIs := collects.declared kept
  have broughtIs := collects.declared brought
  exact ⟨loads, news, final, stored, succeeded, loaded, keptIs.trans (by decide),
    broughtIs.trans (by decide), size⟩

end Store

end ContactPlan
