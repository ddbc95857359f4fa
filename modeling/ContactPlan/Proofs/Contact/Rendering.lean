import ContactPlan.Proofs.Cbor.Outcomes
import ContactPlan.Proofs.Contact.Archive
import Mathlib.Data.Set.List

namespace ContactPlan.Archive

open Cbor Reader

variable {Value : Type} {values : List Nat} {length : Option Nat} {content : List UInt8}

/-- A number is read as an integer in any width. -/
theorem integer_reads_of_head {value : Nat} {part : List UInt8} (isHead : Head 0 value part) :
    integer.Reads part ⟨false, value⟩ := by
  obtain ⟨information, reads⟩ := isHead.reads (by decide)
  exact Reads.loop ((reads _ rfl).finish (Reads.done _))

/-- A number does not begin with a break. -/
theorem unsigned_begins (value : Nat) (part : List UInt8) (isHead : Head 0 value part) :
    Begins part :=
  (WellFormed.unsigned isHead).begins

/-- A field is found when it is below its bound. -/
theorem field_yields (bound : Nat) {value : Nat} {part : List UInt8}
    (isHead : Head 0 value part) :
    (field bound).Yields part (if value < bound then some value else none) := by
  rw [← List.append_nil part]
  apply (integer_reads_of_head isHead).andThen_yields
  have notLarge : ¬UInt64.size ≤ value := Nat.not_le.mpr isHead.lt
  rw [if_neg Bool.false_ne_true, if_neg notLarge]
  by_cases below : value < bound
  · rw [if_pos below, if_neg (Nat.not_le.mpr below)]
    exact yields_done value
  · rw [if_neg below, if_pos (Nat.not_lt.mp below)]
    exact yields_reject _ _

/-- Another integer follows as long as there is one in the list. -/
theorem hasNext_yields {next : Bool → Reader Value} {outcome : Option Value}
    (listed : Listed (Head 0) values length content)
    (atEnd : values = [] → (next false).Yields [] outcome)
    (more : ∀ value others first rest, values = value :: others → Head 0 value first →
      Listed (Head 0) others (length.map (· - 1)) rest →
        (next true).Yields (first ++ rest) outcome) :
    ((hasNext length).andThen next).Yields content outcome := by
  cases listed with
  | counted areParts =>
      cases areParts with
      | nil => exact (hasNext_reads 0).andThen_yields (atEnd rfl)
      | @cons value first others rest isFirst areOthers =>
          exact (hasNext_reads (others.length + 1)).andThen_yields
            (more value others first _ rfl isFirst (.counted areOthers))
  | untilBreak areParts =>
      rw [hasNext, andThen_assoc]
      cases areParts with
      | nil =>
          have ends :
              ((header.map fun _ => false).andThen next).Yields ([breakByte] ++ []) outcome :=
            (breakByte_reads.map _).andThen_yields (atEnd rfl)
          exact breakByte_reads.peek_yields ends
      | @cons value first others rest isFirst areOthers =>
          have yields := more value others first _ rfl isFirst (.untilBreak areOthers)
          obtain ⟨head, tail, found, rfl, reads, notStop⟩ := unsigned_begins value first isFirst
          rw [List.flatten_cons, List.append_assoc, List.append_assoc]
          rw [List.append_assoc] at yields
          apply reads.peek_yields
          split
          · exact absurd rfl notStop
          · exact (Reads.done true).andThen_yields yields

/-- The first of the values is taken if it is below the bound. -/
def nextValue? (bound : Nat) : List Nat → Option (Nat × List Nat)
  | [] => none
  | value :: others => if value < bound then some (value, others) else none

/-- The next value is the first one if it is below the bound. -/
theorem nextValue?_eq_some_iff {bound value : Nat} {others : List Nat} :
    nextValue? bound values = some (value, others) ↔ values = value :: others ∧ value < bound := by
  cases values with
  | nil => simp [nextValue?]
  | cons first rest =>
      unfold nextValue?
      by_cases below : first < bound
      · simp only [if_pos below, Option.some.injEq, Prod.mk.injEq, List.cons.injEq]
        constructor
        · rintro ⟨rfl, rfl⟩
          exact ⟨⟨rfl, rfl⟩, below⟩
        · exact And.left
      · simp only [if_neg below, reduceCtorEq, false_iff, List.cons.injEq]
        rintro ⟨⟨rfl, -⟩, isBelow⟩
        exact below isBelow

/-- A field leaves the other values to what comes next. -/
theorem nextField_yields {bound index : Nat} {next : Nat × Option Nat → Reader Value}
    {result : Nat × List Nat → Option Value} (listed : Listed (Head 0) values length content)
    (continues : ∀ value others remaining rest, Listed (Head 0) others remaining rest →
      (next (value, remaining)).Yields rest (result (value, others))) :
    ((nextField bound index length).andThen next).Yields content
      ((nextValue? bound values).bind result) := by
  rw [nextField, andThen_assoc]
  apply hasNext_yields listed
  · rintro rfl
    exact yields_reject (.wrongLength index) []
  · rintro value others first rest rfl isFirst areOthers
    have found := (field_yields bound isFirst).map fun value => (value, length.map (· - 1))
    rw [if_pos rfl]
    by_cases below : value < bound
    · have next : nextValue? bound (value :: others) = some (value, others) := if_pos below
      rw [if_pos below] at found
      rw [next, Option.bind_some]
      cases found with
      | found takes => exact takes.andThen_yields (continues value others _ rest areOthers)
    · have next : nextValue? bound (value :: others) = none := if_neg below
      rw [if_neg below] at found
      rw [next, Option.bind_none]
      cases found with
      | rejected rejects => exact .rejected (rejects.andThen fun _ => False.elim)

/-- A surplus value is passed over before it is rejected. -/
theorem noMoreFields_yields (listed : Listed (Head 0) values length content) :
    (noMoreFields length).Yields content (if values = [] then some () else none) := by
  apply hasNext_yields listed
  · intro isEmpty
    rw [if_pos isEmpty]
    exact yields_done ()
  · intro value others first rest isValues isFirst _
    have notEmpty : values ≠ [] := isValues ▸ List.cons_ne_nil value others
    rw [if_neg notEmpty]
    apply Yields.rejected
    exact Handles.andThen (skip_passes (.unsigned isFirst) (nestingLimit - 2)) fun _ _ =>
      handles_reject _ _ _

/-- Six values are the fields of a contact if each of them fits. -/
def contactOfValues? (values : List Nat) : Option Contact :=
  (nextValue? UInt64.size values).bind fun (start, values) =>
  (nextValue? UInt64.size values).bind fun (duration, values) =>
  (nextValue? UInt32.size values).bind fun (firstAsn, values) =>
  (nextValue? UInt32.size values).bind fun (firstGateway, values) =>
  (nextValue? UInt32.size values).bind fun (secondAsn, values) =>
  (nextValue? UInt32.size values).bind fun (secondGateway, values) =>
  (if values = [] then some () else none).map fun _ =>
  contactOfFields start duration firstAsn firstGateway secondAsn secondGateway

/-- The fields of a record are its values, if they fit. -/
theorem arrayRecord_yields (listed : Listed (Head 0) values length content) :
    (arrayRecord length).Yields content (contactOfValues? values) := by
  apply nextField_yields listed
  intro start values remaining rest listed
  apply nextField_yields listed
  intro duration values remaining rest listed
  apply nextField_yields listed
  intro firstAsn values remaining rest listed
  apply nextField_yields listed
  intro firstGateway values remaining rest listed
  apply nextField_yields listed
  intro secondAsn values remaining rest listed
  apply nextField_yields listed
  intro secondGateway values remaining rest listed
  exact (noMoreFields_yields listed).map _

/-- Six values that fit come back as the fields of their contact. -/
theorem fields_contactOfFields {start duration firstAsn firstGateway secondAsn secondGateway : Nat}
    (startFits : start < UInt64.size) (durationFits : duration < UInt64.size)
    (firstAsnFits : firstAsn < UInt32.size) (firstGatewayFits : firstGateway < UInt32.size)
    (secondAsnFits : secondAsn < UInt32.size) (secondGatewayFits : secondGateway < UInt32.size) :
    (contactOfFields start duration firstAsn firstGateway secondAsn secondGateway).fields =
      [start, duration, firstAsn, firstGateway, secondAsn, secondGateway] := by
  simp only [Contact.fields, contactOfFields, UInt64.toNat_ofNat_of_lt', UInt32.toNat_ofNat_of_lt',
    startFits, durationFits, firstAsnFits, firstGatewayFits, secondAsnFits, secondGatewayFits]

/-- A contact is found in its fields. -/
theorem contactOfValues?_fields (contact : Contact) :
    contactOfValues? contact.fields = some contact := by
  simp only [contactOfValues?, Contact.fields, nextValue?, UInt64.toNat_lt_size,
    UInt32.toNat_lt_size, if_true, Option.bind_some, Option.map_some, contactOfFields_toNat]

/-- The values of a contact are its fields, and no other values make one. -/
theorem contactOfValues?_eq_some_iff {contact : Contact} :
    contactOfValues? values = some contact ↔ contact.fields = values := by
  constructor
  · unfold contactOfValues?
    simp only [Option.bind_eq_some_iff, Prod.exists, nextValue?_eq_some_iff]
    rintro ⟨start, _, ⟨rfl, startFits⟩, duration, _, ⟨rfl, durationFits⟩, firstAsn, _,
      ⟨rfl, firstAsnFits⟩, firstGateway, _, ⟨rfl, firstGatewayFits⟩, secondAsn, _,
      ⟨rfl, secondAsnFits⟩, secondGateway, others, ⟨rfl, secondGatewayFits⟩, isContact⟩
    obtain ⟨_, isLast, rfl⟩ := Option.map_eq_some_iff.mp isContact
    have noOthers : others = [] := by simpa using isLast
    rw [noOthers]
    exact fields_contactOfFields startFits durationFits firstAsnFits firstGatewayFits secondAsnFits
      secondGatewayFits
  · rintro rfl
    exact contactOfValues?_fields contact

/-- All fields but the first two have 32 bits. -/
theorem drop_fields_lt (contact : Contact) :
    ∀ value ∈ contact.fields.drop 2, value < UInt32.size := by
  simp [Contact.fields, UInt32.toNat_lt_size]

/-- Values are the fields of a contact when they are six and the last four have 32 bits. -/
theorem exists_fields_eq_iff (small : ∀ value ∈ values, value < UInt64.size) :
    (∃ contact : Contact, contact.fields = values) ↔
      values.length = 6 ∧ ∀ value ∈ values.drop 2, value < UInt32.size := by
  constructor
  · rintro ⟨contact, rfl⟩
    exact ⟨rfl, drop_fields_lt contact⟩
  · rintro ⟨six, narrow⟩
    match values, six with
    | [start, duration, firstAsn, firstGateway, secondAsn, secondGateway], _ =>
        simp only [List.drop_succ_cons, List.drop_zero, List.forall_mem_cons] at small narrow
        exact ⟨_, fields_contactOfFields small.1 small.2.1 narrow.1 narrow.2.1 narrow.2.2.1
          narrow.2.2.2.1⟩

/-- All the lists are found when they are the fields of the contacts. -/
theorem mapM_contactOfValues?_eq_some_iff {lists : List (List Nat)} {contacts : List Contact} :
    lists.mapM contactOfValues? = some contacts ↔ contacts.map Contact.fields = lists := by
  induction lists generalizing contacts with
  | nil => simp [eq_comm]
  | cons first rest inductionHypothesis =>
      simp only [mapM_cons, Option.bind_eq_some_iff, Option.map_eq_some_iff, List.map_eq_cons_iff,
        contactOfValues?_eq_some_iff, inductionHypothesis]
      constructor
      · rintro ⟨contact, isFirst, others, areOthers, rfl⟩
        exact ⟨contact, others, rfl, isFirst, areOthers⟩
      · rintro ⟨contact, others, rfl, isFirst, areOthers⟩
        exact ⟨contact, isFirst, others, areOthers, rfl⟩

/-- A written array of numbers is a record when the numbers are fields. -/
theorem record_yields {part : List UInt8} (array : WrittenArray (Head 0) values part) :
    record.Yields part (contactOfValues? values) := by
  obtain ⟨head, length, content, rfl, reads, listed⟩ := array.listed
  exact (untagged_reads_array reads).andThen_yields (arrayRecord_yields listed)

/-- Written arrays of numbers are an archive when all of them are records. -/
theorem records_yields {lists : List (List Nat)} {bytes : List UInt8}
    (array : WrittenArray (WrittenArray (Head 0)) lists bytes) :
    records.Yields bytes (lists.mapM contactOfValues?) := by
  obtain ⟨head, length, content, rfl, reads, listed⟩ := array.listed
  apply (untagged_reads_array reads).andThen_yields
  exact items_yields (fun _ _ => WrittenArray.begins) (fun _ _ => record_yields) listed

/-- An archive has all of its records as contacts, or it does not fit. -/
theorem decode_outcome {lists : List (List Nat)} {bytes : List UInt8}
    (array : WrittenArray (WrittenArray (Head 0)) lists bytes) :
    (∃ contacts, contacts.map Contact.fields = lists ∧ decode bytes = .ok contacts) ∨
      ((¬∃ contacts : List Contact, contacts.map Contact.fields = lists) ∧
        ∃ misfit, decode bytes = .error (.unreadable (.misfit misfit))) := by
  have yields := records_yields array
  simp only [← mapM_contactOfValues?_eq_some_iff]
  generalize lists.mapM contactOfValues? = outcome at yields
  unfold decode
  cases yields with
  | @found contacts takes =>
      have taken := takes 0 []
      rw [List.append_nil] at taken
      rw [taken]
      exact .inl ⟨contacts, rfl, rfl⟩
  | rejected rejects =>
      have fair := rejects 0 []
      rw [List.append_nil] at fair
      generalize records ⟨0, bytes⟩ = result at fair
      cases fair with
      | ok never => exact never.1.elim
      | misfit misfit => exact .inr ⟨by simp, misfit, rfl⟩

/-- Lists of integers that are written in headers of any width and in arrays with or without a
length are an archive when each of them is a record. The contacts have the integers as their fields
and stand in the same order. Anything else does not fit. -/
theorem decode_written {lists : List (List Nat)} {bytes : List UInt8}
    (array : WrittenArray (WrittenArray (Head 0)) lists bytes) :
    let isRecord (list : List Nat) :=
      list.length = 6 ∧ ∀ value ∈ list.drop 2, value < UInt32.size
    ((∃ contacts, decode bytes = .ok contacts) ↔ ∀ list ∈ lists, isRecord list) ∧
      (∀ contacts, decode bytes = .ok contacts → contacts.map Contact.fields = lists) ∧
      ((∃ list ∈ lists, ¬isRecord list) →
        ∃ misfit, decode bytes = .error (.unreadable (.misfit misfit))) := by
  intro isRecord
  have small : ∀ list ∈ lists, ∀ value ∈ list, value < UInt64.size :=
    array.forall_mem fun list part isPart => isPart.forall_mem fun value part isHead => isHead.lt
  have areRecords : (∃ contacts : List Contact, contacts.map Contact.fields = lists) ↔
      ∀ list ∈ lists, isRecord list := by
    change lists ∈ Set.range (List.map Contact.fields) ↔ _
    rw [Set.range_list_map]
    apply forall₂_congr
    intro list member
    exact exists_fields_eq_iff (small list member)
  rcases decode_outcome array with ⟨contacts, areFields, decoded⟩ | ⟨noFields, misfit, decoded⟩
  · have records := areRecords.mp ⟨contacts, areFields⟩
    rw [decoded]
    refine ⟨⟨fun _ => records, fun _ => ⟨contacts, rfl⟩⟩, ?_, ?_⟩
    · rintro found isFound
      cases isFound
      exact areFields
    · rintro ⟨list, member, notRecord⟩
      exact absurd (records list member) notRecord
  · rw [decoded]
    refine ⟨⟨?_, fun records => absurd (areRecords.mpr records) noFields⟩, ?_, ?_⟩
    · rintro ⟨contacts, never⟩
      cases never
    · rintro contacts never
      cases never
    · exact fun _ => ⟨misfit, rfl⟩

/-- The header of this record has eight bytes, and its integers have all widths. -/
def wideRecord : List UInt8 :=
  [0x9B, 0, 0, 0, 0, 0, 0, 0, 6] ++ [[0x18, 5], [0x19, 1, 44], [0x1A, 0, 0, 0, 7], [1],
    [0x1B, 0, 0, 0, 0, 0, 0, 0, 9], [2]].flatten

/-- This record is open and too short. -/
def shortRecord : List UInt8 := 0x9F :: ([[1], [2], [3]].flatten ++ [0xFF])

/-- The record is written with wider headers than it needs. -/
theorem written_wideRecord : WrittenArray (Head 0) [5, 300, 7, 1, 9, 2] wideRecord := by
  have six : Head 4 [5, 300, 7, 1, 9, 2].length [0x9B, 0, 0, 0, 0, 0, 0, 0, 6] :=
    .long (show 3 < 4 by decide) rfl rfl
  have five : Head 0 5 [0x18, 5] := .long (show 0 < 4 by decide) rfl rfl
  have threeHundred : Head 0 300 [0x19, 1, 44] := .long (show 1 < 4 by decide) rfl rfl
  have seven : Head 0 7 [0x1A, 0, 0, 0, 7] := .long (show 2 < 4 by decide) rfl rfl
  have one : Head 0 1 [1] := head_of_small (by decide)
  have nine : Head 0 9 [0x1B, 0, 0, 0, 0, 0, 0, 0, 9] := .long (show 3 < 4 by decide) rfl rfl
  have two : Head 0 2 [2] := head_of_small (by decide)
  apply WrittenArray.counted six
  simp only [List.forall₂_cons]
  exact ⟨five, threeHundred, seven, one, nine, two, .nil⟩

/-- The record is written with three fields too few. -/
theorem written_shortRecord : WrittenArray (Head 0) [1, 2, 3] shortRecord := by
  have one : Head 0 1 [1] := head_of_small (by decide)
  have two : Head 0 2 [2] := head_of_small (by decide)
  have three : Head 0 3 [3] := head_of_small (by decide)
  apply WrittenArray.untilBreak
  simp only [List.forall₂_cons]
  exact ⟨one, two, three, .nil⟩

/-- The wide record is read in an open archive, and the short one does not fit before it. -/
theorem decode_written_mixed :
    let wide := 0x9F :: ([wideRecord, wideRecord].flatten ++ [0xFF])
    let short := [0x82] ++ [shortRecord, wideRecord].flatten
    WrittenArray (WrittenArray (Head 0)) [[5, 300, 7, 1, 9, 2], [5, 300, 7, 1, 9, 2]] wide ∧
      WrittenArray (WrittenArray (Head 0)) [[1, 2, 3], [5, 300, 7, 1, 9, 2]] short ∧
      (∃ contacts, decode wide = .ok contacts ∧
        contacts.map Contact.fields = [[5, 300, 7, 1, 9, 2], [5, 300, 7, 1, 9, 2]]) ∧
      ∃ misfit, decode short = .error (.unreadable (.misfit misfit)) := by
  intro wide short
  have isWide : WrittenArray (WrittenArray (Head 0)) [[5, 300, 7, 1, 9, 2], [5, 300, 7, 1, 9, 2]]
      wide := .untilBreak (.cons written_wideRecord (.cons written_wideRecord .nil))
  have two : Head 4 2 [0x82] := .short (by decide)
  have isShort : WrittenArray (WrittenArray (Head 0)) [[1, 2, 3], [5, 300, 7, 1, 9, 2]] short :=
    .counted two (.cons written_shortRecord (.cons written_wideRecord .nil))
  obtain ⟨accepts, fields, -⟩ := decode_written isWide
  obtain ⟨contacts, decoded⟩ := accepts.mpr (by decide)
  exact ⟨isWide, isShort, ⟨contacts, decoded, fields contacts decoded⟩,
    (decode_written isShort).2.2 ⟨[1, 2, 3], List.mem_cons_self, by decide⟩⟩

end ContactPlan.Archive
