import ContactPlan.Proofs.Address.Ipv4
import ContactPlan.Proofs.Contact.Set
import ContactPlan.Proofs.Instant.Reader
import ContactPlan.Proofs.Toml.Document
import ContactPlan.Settings.Basic

namespace ContactPlan

open Toml

/-- The text of an address can stand between quotation marks. -/
theorem Ipv4.opens_text (address : Ipv4) : Opens address.text.toList := by
  have dot : Quoted.isOpen '.' := by decide
  rw [toList_text]
  exact (opens_digits _).append (opens_cons dot ((opens_digits _).append (opens_cons dot
    ((opens_digits _).append (opens_cons dot (opens_digits _))))))

namespace Instant

/-- A year can stand between quotation marks. -/
theorem opens_yearText (year : Int) : Opens (yearText year).toList := by
  unfold yearText
  split
  · simp only [String.toList_append, Decimal.write, String.toList_ofList]
    exact Opens.append (by decide) (opens_digits _)
  · exact opens_padded _ _

/-- The text of an instant can stand between quotation marks. -/
theorem opens_text {instant : Instant} (hasDate : instant.toNat < dateLimit) :
    Opens instant.text.toList := by
  have dash : Opens "-".toList := by decide
  have colon : Opens ":".toList := by decide
  have point : Opens ".".toList := by decide
  have letter : Opens "T".toList := by decide
  have greenwich : Opens "Z".toList := by decide
  have date (milliseconds : Nat) : Opens (dateText milliseconds).toList := by
    simp only [dateText, String.toList_append]
    exact ((((opens_yearText _).append dash).append (opens_padded _ _)).append dash).append
      (opens_padded _ _)
  have clock (milliseconds : Nat) : Opens (clockText milliseconds).toList := by
    simp only [clockText, String.toList_append]
    exact ((((((opens_padded _ _).append colon).append (opens_padded _ _)).append colon).append
      (opens_padded _ _)).append point).append (opens_padded _ _)
  rw [text_of_lt_dateLimit hasDate]
  simp only [String.toList_append]
  exact (((date _).append letter).append (clock _)).append greenwich

end Instant

/-- A contact is declared by the texts that it is shown with. -/
def Contact.settings (contact : Contact) : List Setting :=
  [⟨"start_time", .text contact.start.text⟩,
    ⟨"duration_ms", .number contact.duration.toNat⟩,
    ⟨"asn1", .number contact.first.asn.toNat⟩,
    ⟨"gw1", .text contact.first.gateway.text⟩,
    ⟨"asn2", .number contact.second.asn.toNat⟩,
    ⟨"gw2", .text contact.second.gateway.text⟩]

/-- The start of a contact has a date and its duration is an integer that can be read. -/
structure Contact.Declarable (contact : Contact) : Prop where
  start : contact.start.toNat < Instant.dateLimit
  duration : contact.duration.toNat < Numeral.limit

/-- The number of a system can be declared as an integer. -/
theorem Asn.toNat_lt_limit (asn : Asn) : asn.toNat < Numeral.limit :=
  Nat.lt_trans asn.toNat_lt (by decide)

/-- The settings of a declarable contact can be written in lines. -/
theorem Contact.Declarable.writable {contact : Contact} (declarable : contact.Declarable) :
    ∀ setting ∈ contact.settings, setting.Writable := by
  simp only [settings, List.forall_mem_cons]
  exact ⟨Setting.writable_text (by decide) (Instant.opens_text declarable.start),
    Setting.writable_number (by decide) declarable.duration,
    Setting.writable_number (by decide) (Asn.toNat_lt_limit _),
    Setting.writable_text (by decide) (Ipv4.opens_text _),
    Setting.writable_number (by decide) (Asn.toNat_lt_limit _),
    Setting.writable_text (by decide) (Ipv4.opens_text _), List.forall_mem_nil _⟩

namespace Settings

theorem required?_some {Item : Type} (read : Value → Option Item) (value : Value) :
    required? read (some value) = read value := by
  rw [required?, Option.bind_some]

theorem optional?_none {Item : Type} (read : Value → Option Item) :
    optional? read none = some none := rfl

theorem withDefault?_none {Item : Type} (default : Item) (read : Value → Option Item) :
    withDefault? default read none = some default := rfl

/-- An instant is declared by its text. -/
theorem instant?_text (text : String) : instant? (.text text) = Instant.ofText? text := by
  rw [instant?, Value.text?, Option.bind_some]

theorem gateway?_text (address : Ipv4) : gateway? (.text address.text) = some address := by
  rw [gateway?, Value.text?, Option.bind_some, Ipv4.ofText?_text]

/-- An integer below the bound is taken as it is. -/
theorem natural?_natCast {bound value : Nat} (fits : value < bound) :
    (Value.integer value).natural? bound = some value :=
  if_pos ⟨Int.natCast_nonneg value, Int.ofNat_lt.mpr fits⟩

theorem word?_toNat (value : UInt32) : word? (.integer value.toNat) = some value := by
  rw [word?, natural?_natCast value.toNat_lt, Option.map_some, UInt32.ofNat_toNat]

/-- A duration is declared as an integer. -/
theorem duration?_toNat (value : UInt64) : duration? (.integer value.toNat) = some value := by
  rw [duration?, natural?_natCast value.toNat_lt, Option.map_some, UInt64.ofNat_toNat]

/-- A contact is declared by the table of its fields. -/
theorem contact?_table {text : String} {start : Instant}
    (isStart : Instant.ofText? text = some start) (duration : UInt64) (first second : Endpoint) :
    contact? (.table false [("start_time", .text text), ("duration_ms", .integer duration.toNat),
      ("asn1", .integer first.asn.toNat), ("gw1", .text first.gateway.text),
      ("asn2", .integer second.asn.toNat), ("gw2", .text second.gateway.text)]) =
        some ⟨start, duration, first, second⟩ := by
  have fields : Value.fields? ["start_time", "duration_ms", "asn1", "gw1", "asn2", "gw2"]
      (.table false [("start_time", .text text), ("duration_ms", .integer duration.toNat),
        ("asn1", .integer first.asn.toNat), ("gw1", .text first.gateway.text),
        ("asn2", .integer second.asn.toNat), ("gw2", .text second.gateway.text)]) =
      some [some (.text text), some (.integer duration.toNat), some (.integer first.asn.toNat),
        some (.text first.gateway.text), some (.integer second.asn.toNat),
        some (.text second.gateway.text)] := rfl
  simp only [contact?, fields, required?_some, Option.bind_eq_bind, Option.bind_some, instant?_text,
    isStart, duration?_toNat, word?_toNat, gateway?_text]
  rfl

/-- A contact is read from its settings. -/
theorem contact?_settings {contact : Contact}
    (hasDate : contact.start.toNat < Instant.dateLimit) :
    contact? (.table false (contact.settings.map Setting.member)) = some contact :=
  contact?_table (Instant.ofText?_text hasDate) contact.duration contact.first contact.second

/-- Contacts are declared by the tables of their settings. -/
theorem mapM_contact?_settings {contacts : List Contact}
    (hasDate : ∀ contact ∈ contacts, contact.start.toNat < Instant.dateLimit) :
    (contacts.map fun contact => Value.table false (contact.settings.map Setting.member)).mapM
      contact? = some contacts := by
  induction contacts with
  | nil => rfl
  | cons contact contacts inductionHypothesis =>
      obtain ⟨isFirst, areOthers⟩ := List.forall_mem_cons.mp hasDate
      rw [List.map_cons, List.mapM_cons, contact?_settings isFirst, inductionHypothesis areOthers]
      rfl

theorem address?_text (address : Ipv4) : address? (.text address.text) = some (.v4 address) := by
  rw [address?, Value.text?, Option.bind_some, Address.ofText?, Ipv4.ofText?_text]

/-- Settings need an address and a number for the router, and may list contacts. -/
def root (routerId : Ipv4) (own : Asn) : List Setting :=
  [⟨"router_id", .text routerId.text⟩, ⟨"local_as", .number own.toNat⟩]

/-- The contacts are declared one after the other. -/
def document (routerId : Ipv4) (own : Asn) (contacts : List Contact) : String :=
  String.ofList (Toml.document (root routerId own) "contacts" (contacts.map Contact.settings))

/-- A document with declarable contacts is read as its tables. -/
theorem read?_document {contacts : List Contact}
    (declarable : ∀ contact ∈ contacts, contact.Declarable) (routerId : Ipv4) (own : Asn) :
    Toml.read? (document routerId own contacts) =
      some ((root routerId own).map Setting.member ++
        tableMembers "contacts"
          ((contacts.map Contact.settings).map (List.map Setting.member))) := by
  have rootWritable : ∀ setting ∈ root routerId own, setting.Writable := by
    simp only [root, List.forall_mem_cons]
    exact ⟨Setting.writable_text (by decide) (Ipv4.opens_text _),
      Setting.writable_number (by decide) (Asn.toNat_lt_limit _), List.forall_mem_nil _⟩
  have writable : ∀ settings ∈ contacts.map Contact.settings,
      ∀ setting ∈ settings, setting.Writable := by
    intro settings member
    obtain ⟨contact, isMember, rfl⟩ := List.mem_map.mp member
    exact (declarable contact isMember).writable
  exact Toml.read?_document (List.cons_ne_nil _ _) rootWritable (by decide) writable

theorem unique?_root (routerId own : Value) (tables : List Members) :
    let members : Members :=
      [("router_id", routerId), ("local_as", own)] ++ tableMembers "contacts" tables
    let listed := if tables = [] then none else some (Value.array (tables.map (Value.table false)))
    members.unique? "router_id" = some (some routerId) ∧
      members.unique? "local_as" = some (some own) ∧
      members.unique? "store_path" = some none ∧ members.unique? "export_path" = some none ∧
      members.unique? "neighbors" = some none ∧ members.unique? "static_routes" = some none ∧
      members.unique? "contacts" = some listed := by
  unfold tableMembers
  split
  next => exact ⟨rfl, rfl, rfl, rfl, rfl, rfl, rfl⟩
  next => exact ⟨rfl, rfl, rfl, rfl, rfl, rfl, rfl⟩

/-- What is not set has its default. -/
theorem ofMembers?_root {routerId own : Value} {tables : List Members} {address : Address}
    {asn : Asn} {contacts : List Contact} (isAddress : address? routerId = some address)
    (isAsn : word? own = some asn)
    (areContacts : (tables.map (Value.table false)).mapM contact? = some contacts) :
    Draft.ofMembers?
        ([("router_id", routerId), ("local_as", own)] ++ tableMembers "contacts" tables) =
      some { routerId := address, own := asn, storePath := Store.defaultPath, exportPath := none,
             neighbors := [], routes := [], contacts := contacts } := by
  have listed : withDefault? [] (Value.list? contact?)
      (if tables = [] then none else some (Value.array (tables.map (Value.table false)))) =
        some contacts := by
    split
    next none =>
      rw [none] at areContacts
      exact areContacts
    next => exact areContacts
  obtain ⟨router, number, store, archive, neighbors, routes, declared⟩ :=
    unique?_root routerId own tables
  simp only [Draft.ofMembers?, router, number, store, archive, neighbors, routes, declared,
    required?_some, isAddress, isAsn, withDefault?_none, optional?_none, listed,
    Option.bind_eq_bind, Option.bind_some]
  rfl

/-- The contacts of a document are its declarations. -/
theorem ofText_document {contacts : List Contact}
    (declarable : ∀ contact ∈ contacts, contact.Declarable) (routerId : Ipv4) (own : Asn) :
    Settings.ofText (document routerId own contacts) =
      .ok { routerId := .v4 routerId, own := own, storePath := Store.defaultPath,
            exportPath := none, neighbors := [], routes := [],
            contacts := ContactSet.ofList contacts } := by
  have hasDate : ∀ contact ∈ contacts, contact.start.toNat < Instant.dateLimit :=
    fun contact member => (declarable contact member).start
  have areContacts : (((contacts.map Contact.settings).map (List.map Setting.member)).map
      (Value.table false)).mapM contact? = some contacts := by
    rw [List.map_map, List.map_map]
    exact mapM_contact?_settings hasDate
  have draft := ofMembers?_root (address?_text routerId) (word?_toNat own) areContacts
  have isRoot : (root routerId own).map Setting.member =
      [("router_id", .text routerId.text), ("local_as", .integer own.toNat)] := rfl
  rw [Settings.ofText, Draft.ofText?, read?_document declarable, Option.bind_some, isRoot, draft]
  rfl

end Settings

end ContactPlan
