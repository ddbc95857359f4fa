import ContactPlan.Proofs.Store.Ingest

namespace ContactPlan

/-- Each whole record has thirty-two bytes of its own, and what is left at the end is no record. -/
def Record.whole (bytes : List UInt8) : List Contact :=
  (List.range (bytes.length / width)).map fun index =>
    read ((bytes.drop (width * index)).take width)

/-- The records that are read are the whole ones. -/
theorem Record.readAll_eq_whole (bytes : List UInt8) : readAll bytes = whole bytes :=
  readMany_eq _ bytes

namespace Store

/-- A store is saved again with the contacts that are loaded from it. -/
def resave (disk : Disk) (path : String) : Except Disk.Fault (Nat × Disk) :=
  (loadOrEmpty disk path).bind (save disk path)

/-- As many contacts are kept as are valid. -/
theorem size_valid (set : ContactSet) :
    set.valid.size = set.members.countP Contact.isValid :=
  List.countP_eq_length_filter.symm

/-- Invalid contacts make no difference to what is written. -/
theorem image_valid (set : ContactSet) : image set.valid = image set := by
  rw [image, image, ContactSet.valid_valid]

/-- The image of a set has thirty-two bytes for each valid contact. -/
theorem length_image (set : ContactSet) :
    (image set).length = 32 * set.members.countP Contact.isValid := by
  rw [image, Record.length_writeAll, ← size_valid]
  rfl

/-- A store that can be read is saved with what it holds. -/
theorem resave_of_read {disk : Disk} {path : String} {bytes : List UInt8}
    (stored : disk.read path = .ok bytes) :
    resave disk path = save disk path (contents bytes) := by
  rw [resave, loadOrEmpty_of_read stored]
  rfl

/-- A store that a save has left is not changed when it is saved again. -/
theorem resave_saved {disk next : Disk} {path : String} {set : ContactSet}
    (written : disk.write path (image set) = .ok next) (reads : next.read path = .ok (image set)) :
    resave next path = .ok (set.valid.size, next) := by
  have again : next.write path (image set) = .ok next := Disk.write_again written
  rw [resave_of_read reads, contents_image, save, image_valid, again, ContactSet.valid_valid]
  rfl

/-- The last whole record of a contact tells how it is declared. -/
theorem declaration?_contents (bytes : List UInt8) (contact : Contact) :
    (contents bytes).declaration? contact =
      (Record.whole bytes).reverse.find? fun record => record.Same contact := by
  rw [contents, ContactSet.declaration?_ofList, Record.readAll_eq_whole]
  rfl

/-- Whatever bytes a store holds, it loads its whole records, and the last record of a contact
tells how it is declared. Records and contacts determine each other.
A save counts the valid contacts, writes one record for each of them, and gives them back as they
are declared. A store that has been loaded and saved is not changed when that is done again. -/
theorem save_load_resave {disk : Disk} {path : String} {bytes : List UInt8}
    (stored : disk.read path = .ok bytes) (set : ContactSet) :
    (∃ loaded, load disk path = .ok (some loaded) ∧ ∀ contact,
      loaded.declaration? contact =
        (Record.whole bytes).reverse.find? fun record => record.Same contact) ∧
    ((∀ record : List UInt8, record.length = 32 → Record.write (Record.read record) = record) ∧
      ∀ contact, (Record.write contact).length = 32 ∧
        Record.read (Record.write contact) = contact) ∧
    (∃ next file reloaded,
      save disk path set = .ok (set.members.countP Contact.isValid, next) ∧
        next.read path = .ok file ∧ file.length = 32 * set.members.countP Contact.isValid ∧
        load next path = .ok (some reloaded) ∧
        reloaded.members = set.members.filter Contact.isValid) ∧
    ∃ count next, resave disk path = .ok (count, next) ∧
      next.read path = .ok (image (contents bytes)) ∧
      resave next path = .ok (count, next) := by
  have writable := Disk.writable_of_read stored
  constructor
  · exact ⟨contents bytes, load_of_read stored, declaration?_contents bytes⟩
  constructor
  · constructor
    · intro record whole
      exact Record.write_read whole
    · intro contact
      exact ⟨Record.length_write contact, Record.read_write contact⟩
  constructor
  · obtain ⟨next, -, saved, reads, -⟩ := save_of_writable writable set
    rw [size_valid] at saved
    have reloads := load_of_read reads
    rw [contents_image] at reloads
    exact ⟨next, image set, set.valid, saved, reads, length_image set, reloads, rfl⟩
  · obtain ⟨next, written, saved, reads, -⟩ := save_of_writable writable (contents bytes)
    rw [← resave_of_read stored] at saved
    exact ⟨_, next, saved, reads, resave_saved written reads⟩

/-- The first record of the untidy file is declared anew by the second one, and the third one is not
valid. One record is left, and a save of another set leaves two. -/
theorem save_load_resave_untidy :
    let bytes := Record.writeAll [kept, kept.flip, { brought with duration := 0 }] ++ [1, 2, 3]
    untidy.read "contacts" = .ok bytes ∧
      (∃ loaded, load untidy "contacts" = .ok (some loaded) ∧
        loaded.declaration? kept = some kept.flip) ∧
      (∃ next file, save untidy "contacts" (ContactSet.ofList [kept, brought]) = .ok (2, next) ∧
        next.read "contacts" = .ok file ∧ file.length = 64) ∧
      ∃ count next, resave untidy "contacts" = .ok (count, next) ∧
        next.read "contacts" = .ok (Record.write kept.flip) ∧
        resave next "contacts" = .ok (count, next) := by
  intro bytes
  have stored : untidy.read "contacts" = .ok bytes := rfl
  obtain ⟨⟨loaded, loads, declared⟩, -, ⟨next, file, -, saved, reads, size, -⟩,
    count, resaved, first, isRecord, again⟩ :=
      save_load_resave stored (ContactSet.ofList [kept, brought])
  have isDeclared : loaded.declaration? kept = some kept.flip := (declared kept).trans (by decide)
  have oneRecord : image (contents bytes) = Record.write kept.flip := by decide
  rw [oneRecord] at isRecord
  constructor
  · exact stored
  constructor
  · exact ⟨loaded, loads, isDeclared⟩
  constructor
  · exact ⟨next, file, saved, reads, size⟩
  · exact ⟨count, resaved, first, isRecord, again⟩

end Store

end ContactPlan
