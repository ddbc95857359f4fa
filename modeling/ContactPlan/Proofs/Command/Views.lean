import ContactPlan.Command.Outcome
import ContactPlan.Proofs.Contact.Archive
import ContactPlan.Proofs.Disk
import ContactPlan.Proofs.Store.Ingest
import ContactPlan.Proofs.Text.Hex

namespace ContactPlan

/-- The archive of a store has the contacts of all its whole records. -/
def Store.archive (bytes : List UInt8) : List UInt8 :=
  (Archive.chunks (Store.contents bytes).members).flatten

/-- Whatever a store holds can be archived. -/
theorem Store.encode_contents (bytes : List UInt8) :
    Archive.encode (contents bytes) = .ok (archive bytes) := Archive.encode_eq _

/-- No file has so many records that an archive of them could not be read. -/
theorem Store.decode_archive {bytes : List UInt8} (small : bytes.length < UInt64.size) :
    Archive.decode (archive bytes) = .ok (contents bytes).members := by
  apply Archive.decode_chunks
  have counted := size_contents_le bytes
  simp only [ContactSet.size, Record.width] at counted
  simp only [UInt64.size] at small ⊢
  omega

namespace Command

section

variable {disk : Disk} {store : String} {bytes : List UInt8}
variable (stored : disk.read store = .ok bytes)
include stored

/-- A view shows what the store holds. -/
theorem perform_view (asListing : Bool) (now : Instant) :
    perform (.view store asListing) disk now =
      ⟨0, contactLines (Store.contents bytes).members asListing, "", disk⟩ := by
  rw [perform, performView, Store.load_of_read stored]

/-- Without a file the archive is printed in hexadecimal digits. -/
theorem perform_archive_printed (now : Instant) :
    perform (.archive store none) disk now =
      .success (Hex.write (Store.archive bytes)) disk := by
  rw [perform, performArchive, Store.loadOrEmpty_of_read stored]
  simp only [Store.encode_contents]

theorem perform_archive_written {file : String} {written : Disk}
    (writes : disk.write file (Store.archive bytes) = .ok written) (now : Instant) :
    perform (.archive store (some file)) disk now =
      .success (archiveText (Store.contents bytes) (Store.archive bytes) file) written := by
  rw [perform, performArchive, Store.loadOrEmpty_of_read stored]
  simp only [Store.encode_contents, writes]

end

/-- An archive of a store is shown like the store. -/
theorem perform_decode {disk : Disk} {file : String} {bytes : List UInt8}
    (archived : disk.read file = .ok (Store.archive bytes)) (small : bytes.length < UInt64.size)
    (asListing : Bool) (now : Instant) :
    perform (.decode file asListing) disk now =
      ⟨0, contactLines (Store.contents bytes).members asListing, "", disk⟩ := by
  rw [perform, performDecode, archived]
  simp only [Store.decode_archive small]

end Command

namespace Server

variable {server : Server} {disk : Disk} {bytes : List UInt8}
variable (stored : disk.read server.settings.storePath = .ok bytes)
include stored

/-- Without a file the server returns the archive of the store. -/
theorem archive_returned (noFile : server.settings.exportPath = none) :
    server.archive disk = (.ok (Store.archive bytes), disk) := by
  rw [archive, Store.loadOrEmpty_of_read stored]
  simp only [Store.encode_contents, deliver, noFile]

theorem archive_written {path : String} {next : Disk}
    (hasFile : server.settings.exportPath = some path)
    (writes : disk.write path (Store.archive bytes) = .ok next) :
    server.archive disk = (.ok (Store.archive bytes), next) := by
  rw [archive, Store.loadOrEmpty_of_read stored]
  simp only [Store.encode_contents, deliver, hasFile, writes]

end Server

/-- Whatever bytes a store has, its archive is one list of bytes for all who ask for it.
The printed digits spell it, a file gets it, and a server returns and writes it.
A view of the archive and a view of the store print the same.
The length of a file is a number of 64 bits. -/
theorem Command.views_agree {disk : Disk} {store : String} {bytes : List UInt8}
    (stored : disk.read store = .ok bytes) (small : bytes.length < UInt64.size) :
    ∃ archive,
      (∀ now, perform (.archive store none) disk now = .success (Hex.write archive) disk) ∧
      Hex.read? (Hex.write archive).toList = some archive ∧
      Archive.decode archive = .ok (Store.contents bytes).members ∧
      (∀ file, disk.Writable file → ∃ written,
        written.read file = .ok archive ∧
        (∀ now, perform (.archive store (some file)) disk now =
          .success (archiveText (Store.contents bytes) archive file) written) ∧
        ∀ asListing now later,
          let view := perform (.view store asListing) disk now
          let decoded := perform (.decode file asListing) written later
          view.output = decoded.output ∧ view.code = 0 ∧ decoded.code = 0 ∧
            view.complaint = "" ∧ decoded.complaint = "") ∧
      ∀ server : Server, server.settings.storePath = store →
        (server.settings.exportPath = none → server.archive disk = (.ok archive, disk)) ∧
        ∀ path, server.settings.exportPath = some path → disk.Writable path →
          ∃ next, server.archive disk = (.ok archive, next) ∧ next.read path = .ok archive := by
  refine ⟨Store.archive bytes, perform_archive_printed stored, Hex.read?_write _,
    Store.decode_archive small, ?_, ?_⟩
  · intro file writable
    obtain ⟨written, writes, reads, -⟩ := writable.write (Store.archive bytes)
    refine ⟨written, reads, perform_archive_written stored writes, ?_⟩
    intro asListing now later view decoded
    have viewed : view = _ := perform_view stored asListing now
    have shown : decoded = _ := perform_decode reads small asListing later
    rw [viewed, shown]
    exact ⟨rfl, rfl, rfl, rfl, rfl⟩
  · rintro server rfl
    constructor
    · exact Server.archive_returned stored
    · intro path hasFile writable
      obtain ⟨next, writes, reads, -⟩ := writable.write (Store.archive bytes)
      exact ⟨next, Server.archive_written stored hasFile writes, reads⟩

/-- The store has two records of one contact, an invalid record and one that is not whole. -/
theorem Command.views_agree_untidy :
    let bytes := Record.writeAll [Store.kept, Store.kept.flip,
      { Store.brought with duration := 0 }] ++ [1, 2, 3]
    Store.untidy.read "contacts" = .ok bytes ∧ bytes.length < UInt64.size ∧
      Store.untidy.Writable "archive" ∧
      ∃ archive written,
        Archive.decode archive = .ok [{ Store.brought with duration := 0 }, Store.kept.flip] ∧
        perform (.archive "contacts" none) Store.untidy 0 =
          .success (Hex.write archive) Store.untidy ∧
        Hex.read? (Hex.write archive).toList = some archive ∧
        written.read "archive" = .ok archive ∧
        (perform (.archive "contacts" (some "archive")) Store.untidy 0).disk = written ∧
        (perform (.view "contacts" true) Store.untidy 0).output =
          (perform (.decode "archive" true) written 0).output := by
  intro bytes
  have stored : Store.untidy.read "contacts" = .ok bytes := rfl
  have small : bytes.length < UInt64.size := by decide
  have writable : Store.untidy.Writable "archive" := ⟨["home", "archive"], rfl, by decide⟩
  have members : (Store.contents bytes).members =
      [{ Store.brought with duration := 0 }, Store.kept.flip] := by decide
  obtain ⟨archive, printed, spelled, decoded, files, -⟩ := Command.views_agree stored small
  obtain ⟨written, reads, exported, views⟩ := files "archive" writable
  rw [members] at decoded
  exact ⟨stored, small, writable, archive, written, decoded, printed 0, spelled, reads,
    congrArg Outcome.disk (exported 0), (views true 0 0).1⟩

end ContactPlan
