import ContactPlan.Proofs.Contact.Same
import ContactPlan.Proofs.Settings.Declaration
import ContactPlan.Proofs.Toml.Bounds

namespace ContactPlan

theorem ContactSet.mem_of_mem_ofList {contact : Contact} {contacts : List Contact}
    (member : contact ∈ (ofList contacts).members) : contact ∈ contacts := by
  rw [mem_members_iff, declaration?_ofList] at member
  exact List.mem_reverse.mp (Contact.mem_of_declarationIn member)

namespace Settings

open Toml

/-- A field of bounded members is bounded. -/
theorem gives_unique? {members : Members} (bounded : members.Bounded) (name : String) :
    Gives (fun field => ∀ value ∈ field, value.Bounded) (members.unique? name) := by
  unfold Members.unique?
  split
  · exact gives_some fun value never => nomatch never
  next member only =>
    have isMember : member ∈ members.filter fun member => member.1 = name :=
      only ▸ List.mem_singleton_self member
    apply gives_some
    rintro value ⟨rfl⟩
    exact bounded member (List.mem_filter.mp isMember).1
  · exact gives_none

/-- The fields of a bounded value are bounded. -/
theorem gives_fields? {value : Value} (bounded : value.Bounded) (names : List String) :
    Gives (fun fields => ∀ field ∈ fields, ∀ value ∈ field, value.Bounded)
      (value.fields? names) := by
  unfold Value.fields?
  cases bounded with
  | table dotted all => exact gives_mapM fun name _ => gives_unique? all name
  | array elements =>
      dsimp only
      split
      · apply gives_some
        intro field member value isValue
        obtain ⟨element, isElement, rfl⟩ := List.mem_map.mp member
        cases isValue
        exact elements value isElement
      · exact gives_none
  | _ => exact gives_none

/-- A field that is required is read from a bounded value. -/
theorem gives_required? {Item : Type} {property : Item → Prop} {read : Value → Option Item}
    {field : Option Value} (bounded : ∀ value ∈ field, value.Bounded)
    (reads : ∀ value, value.Bounded → Gives property (read value)) :
    Gives property (required? read field) := by
  cases field with
  | none => exact gives_none
  | some value => exact reads value (bounded value rfl)

/-- A duration that is read has no sign in its 64 bits. -/
theorem gives_duration? {value : Value} (bounded : value.Bounded) :
    Gives (fun duration => duration.toNat < Numeral.limit) (duration? value) := by
  unfold duration? Value.natural?
  cases bounded with
  | @integer value below =>
      dsimp only
      split
      next range =>
        apply gives_some
        have least : (UInt64.ofNat value.toNat).toNat ≤ value.toNat := by
          rw [UInt64.toNat_ofNat']
          exact Nat.mod_le _ _
        omega
      next => exact gives_none
  | _ => exact gives_none

theorem gives_contact? {value : Value} (bounded : value.Bounded) :
    Gives (fun contact => contact.duration.toNat < Numeral.limit) (contact? value) := by
  refine (gives_fields? bounded _).bind fun fields areBounded => ?_
  split
  next start duration firstAsn firstGateway secondAsn secondGateway =>
    have isDuration : Gives (fun duration => duration.toNat < Numeral.limit)
        (required? duration? duration) :=
      gives_required? (areBounded duration (by simp)) fun _ => gives_duration?
    refine gives_bind fun start => isDuration.bind fun duration below => ?_
    refine gives_bind fun firstAsn => gives_bind fun firstGateway => ?_
    exact gives_bind fun secondAsn => gives_bind fun secondGateway => gives_some below
  next => exact gives_none

/-- All contacts that are read have durations of 63 bits. -/
theorem gives_contacts? {field : Option Value} (bounded : ∀ value ∈ field, value.Bounded) :
    Gives (fun contacts => ∀ contact ∈ contacts, contact.duration.toNat < Numeral.limit)
      (withDefault? [] (Value.list? contact?) field) := by
  cases field with
  | none => exact gives_some (List.forall_mem_nil _)
  | some value =>
      cases bounded value rfl with
      | array elements =>
          exact gives_mapM fun element member => gives_contact? (elements element member)
      | _ => exact gives_none

/-- All contacts of a draft have durations of 63 bits. -/
theorem gives_ofMembers? {members : Members} (bounded : members.Bounded) :
    Gives (fun draft => ∀ contact ∈ draft.contacts, contact.duration.toNat < Numeral.limit)
      (Draft.ofMembers? members) := by
  refine gives_bind fun routerId => gives_bind fun address => ?_
  refine gives_bind fun own => gives_bind fun asn => ?_
  refine gives_bind fun store => gives_bind fun storePath => ?_
  refine gives_bind fun archive => gives_bind fun exportPath => ?_
  refine gives_bind fun listed => gives_bind fun neighbors => ?_
  refine gives_bind fun drafted => gives_bind fun routes => ?_
  refine (gives_unique? bounded _).bind fun field isBounded => ?_
  exact (gives_contacts? isBounded).bind fun contacts below => gives_some below

/-- No settings have a contact with a longer duration. -/
theorem duration_lt_of_ofText {text : String} {settings : Settings}
    (read : Settings.ofText text = .ok settings) :
    ∀ contact ∈ settings.contacts.members, contact.duration.toNat < Numeral.limit := by
  have drafted : Gives (fun draft => ∀ contact ∈ draft.contacts,
      contact.duration.toNat < Numeral.limit) (Draft.ofText? text) :=
    (gives_read? text).bind fun members bounded => gives_ofMembers? bounded
  unfold Settings.ofText at read
  split at read
  next => cases read
  next draft found =>
    unfold ofDraft at read
    cases routes : readRoutes draft.routes with
    | error fault =>
        rw [routes] at read
        cases read
    | ok routes' =>
        rw [routes] at read
        cases read
        intro contact member
        exact drafted draft found contact (ContactSet.mem_of_mem_ofList member)

/-- A contact whose start has a date can be declared when its duration is short enough. -/
theorem declared_iff {contact : Contact} (hasDate : contact.start.toNat < Instant.dateLimit) :
    (∃ text settings, Settings.ofText text = .ok settings ∧ settings.contacts.contains contact) ↔
      contact.duration.toNat < Numeral.limit := by
  constructor
  · rintro ⟨text, settings, read, present⟩
    obtain ⟨declared, member, same⟩ := ContactSet.contains_iff.mp present
    have below := duration_lt_of_ofText read declared member
    rcases Contact.same_iff.mp same with rfl | rfl
    · exact below
    · exact below
  · intro short
    have declarable : ∀ other ∈ [contact], other.Declarable :=
      List.forall_mem_singleton.mpr ⟨hasDate, short⟩
    exact ⟨_, _, ofText_document declarable Ipv4.unspecified 0,
      ContactSet.contains_of_mem List.mem_cons_self⟩

/-- Instants with a date come back from their texts. No two instants are written alike, and an
instant without a date is written as its number. Contacts with a date and with a duration below
the limit of integers come back from the settings that declare them as they are shown. -/
theorem redeclared_as_shown :
    (∀ instant : Instant, instant.toNat < Instant.dateLimit →
      instant? (.text instant.text) = some instant) ∧
    (∀ left right : Instant, left.text = right.text → left = right) ∧
    (∀ instant : Instant, Instant.dateLimit ≤ instant.toNat →
      instant.text = Decimal.write instant.toNat ++ "ms") ∧
    ∀ (routerId : Ipv4) (own : Asn) (contacts : List Contact),
      (∀ contact ∈ contacts, contact.start.toNat < Instant.dateLimit ∧
        contact.duration.toNat < Numeral.limit) →
      ∃ settings, Settings.ofText (document routerId own contacts) = .ok settings ∧
        settings.contacts = ContactSet.ofList contacts := by
  refine ⟨fun instant hasDate => ?_, fun left right => Instant.text_injective,
    fun instant => Instant.text_of_dateLimit_le, fun routerId own contacts declarable => ?_⟩
  · rw [instant?_text, Instant.ofText?_text hasDate]
  · have all : ∀ contact ∈ contacts, contact.Declarable :=
      fun contact member => ⟨(declarable contact member).1, (declarable contact member).2⟩
    exact ⟨_, ofText_document all routerId own, rfl⟩

/-- The contact starts in the year 10000. -/
def lateContact : Contact :=
  ⟨253402300800000, 500, ⟨10, Ipv4.ofOctets 1 1 1 11⟩, ⟨20, Ipv4.ofOctets 2 2 2 21⟩⟩

/-- A contact after the year 9999 is declared as it is shown, and one after the last date has no
date to declare. -/
theorem redeclared_as_shown_late :
    lateContact.start.text = "+10000-01-01T00:00:00.000Z" ∧
      instant? (.text lateContact.start.text) = some lateContact.start ∧
      Instant.text 8210266876800000 ≠ Instant.text 8210266876799999 ∧
      Instant.text 8210266876800000 = Decimal.write 8210266876800000 ++ "ms" ∧
      ∃ settings,
        Settings.ofText (document Ipv4.unspecified 100 [lateContact]) = .ok settings ∧
          settings.contacts = ContactSet.ofList [lateContact] := by
  obtain ⟨returns, different, numbered, redeclared⟩ := redeclared_as_shown
  have shown : lateContact.start.text = "+10000-01-01T00:00:00.000Z" := by
    simp [lateContact, Instant.text, Instant.dateLimit, Instant.dateText, Instant.clockText,
      CivilDate.ofDayNumber, Instant.yearText, Decimal.padded, Decimal.write, Decimal.digits,
      Decimal.digitChar]
  exact ⟨shown, returns _ (by decide), fun same => absurd (different _ _ same) (by decide),
    numbered _ (by decide), redeclared _ _ _ (List.forall_mem_singleton.mpr (by decide))⟩

/-- The duration of the contact needs all 64 bits. -/
def longContact : Contact :=
  ⟨1893456000000, 9223372036854775808, ⟨10, Ipv4.ofOctets 1 1 1 11⟩, ⟨20, Ipv4.ofOctets 2 2 2 21⟩⟩

/-- This contact is valid and starts at a date, but no settings declare it. -/
theorem not_redeclared_long :
    longContact.isValid ∧ longContact.start.toNat < Instant.dateLimit ∧
      ¬∃ text settings,
        Settings.ofText text = .ok settings ∧ settings.contacts.contains longContact := by
  have hasDate : longContact.start.toNat < Instant.dateLimit := by decide
  refine ⟨by decide, hasDate, ?_⟩
  rw [declared_iff hasDate]
  decide

end Settings

end ContactPlan
