import ContactPlan.Proofs.Cbor.Skip
import ContactPlan.Proofs.Contact.Archive
import Mathlib.Data.List.Permutation

namespace ContactPlan.Archive

open Cbor Reader

variable {Value : Type} {bytes content : List UInt8} {length : Option Nat}

/-- A well-formed item is an integer or something else. -/
theorem integer_passes (wellFormed : WellFormed bytes) : integer.Passes bytes := by
  refine wellFormed.byHeader ?_ ?_
  · intro head item number reads wellFormed inductionHypothesis
    by_cases isBig : number = positiveBigTag ∨ number = negativeBigTag
    · refine Handles.loop_finished (reads.andThen_handles ?_)
      simp only [if_pos isBig]
      exact Handles.map (bigNumber_passes _ wellFormed) fun _ _ => trivial
    · refine Reads.loop_again (reads.finish ?_) (header_reads_ne_nil reads) inductionHypothesis
      simp only [if_neg isBig]
      exact Reads.done _
  · intro head content found reads body
    refine Handles.loop_finished (reads.andThen_handles ?_)
    cases body with
    | unsigned value => exact handles_done trivial
    | negative value => exact handles_done trivial
    | _ => exact handles_reject _ _ _

theorem field_passes (bound : Nat) (wellFormed : WellFormed bytes) :
    (field bound).Passes bytes := by
  refine Handles.finish (integer_passes wellFormed) fun number _ => ?_
  split_ifs
  · exact handles_reject _ _ _
  · exact handles_reject _ _ _
  · exact handles_reject _ _ _
  · exact handles_done trivial

/-- The tags before an item are taken with the header behind them. -/
theorem untagged_handles (wellFormed : WellFormed bytes) :
    ∃ tags content, bytes = tags ++ content ∧
      untagged.Handles tags fun found => Body WellFormed found content := by
  refine wellFormed.byHeader
    (motive := fun bytes => ∃ tags content, bytes = tags ++ content ∧
      untagged.Handles tags fun found => Body WellFormed found content) ?_ ?_
  · rintro head _ number reads - ⟨tags, content, rfl, handles⟩
    refine ⟨head ++ tags, content, (List.append_assoc _ _ _).symm, ?_⟩
    exact Reads.loop_again (reads.finish (Reads.done _)) (header_reads_ne_nil reads) handles
  · intro head content found reads body
    have finished : Turn.Goes (fun _ : Unit => False) (fun found => Body WellFormed found content)
        (.finished found) := body.imp fun _ both => both.1
    refine ⟨head, content, rfl, Handles.loop_finished (Reads.handles ?_ finished)⟩
    apply reads.finish
    cases body <;> exact Reads.done _

/-- What is found behind the tags of an item is the rest of that item. -/
theorem untagged_andThen {next : Header → Reader Value}
    (passes : ∀ found content, Body WellFormed found content → (next found).Passes content)
    (wellFormed : WellFormed bytes) : (untagged.andThen next).Passes bytes := by
  obtain ⟨tags, content, rfl, handles⟩ := untagged_handles wellFormed
  exact handles.andThen fun found body => passes found content body

/-- Before each part of a sequence there is a next one, and there is none behind the last. -/
theorem hasNext_andThen {part : List UInt8 → Prop} (begins : ∀ bytes, part bytes → Begins bytes)
    {next : Bool → Reader Value} (atEnd : (next false).Passes [])
    (more : ∀ first rest, part first → Sequence part (length.map (· - 1)) rest →
      (next true).Passes (first ++ rest))
    (sequence : Sequence part length content) : ((hasNext length).andThen next).Passes content := by
  cases sequence with
  | @counted parts areParts =>
      cases parts with
      | nil => exact (hasNext_reads 0).andThen_handles atEnd
      | cons first others =>
          have isFirst := areParts first List.mem_cons_self
          have areOthers : Sequence part (some others.length) others.flatten :=
            .counted fun bytes member => areParts bytes (List.mem_cons_of_mem first member)
          exact (hasNext_reads (others.length + 1)).andThen_handles
            (more first others.flatten isFirst areOthers)
  | @untilBreak parts areParts =>
      rw [hasNext, andThen_assoc]
      cases parts with
      | nil =>
          change Passes _ ([breakByte] ++ [])
          refine breakByte_reads.peek_handles ?_
          exact (breakByte_reads.map _).andThen_handles atEnd
      | cons first others =>
          have isFirst := areParts first List.mem_cons_self
          have areOthers : Sequence part none (others.flatten ++ [breakByte]) :=
            .untilBreak fun bytes member => areParts bytes (List.mem_cons_of_mem first member)
          have passes := more first _ isFirst areOthers
          obtain ⟨head, rest, found, rfl, reads, notStop⟩ := begins first isFirst
          rw [List.flatten_cons, List.append_assoc, List.append_assoc]
          rw [List.append_assoc] at passes
          refine reads.peek_handles ?_
          split
          · exact absurd rfl notStop
          · exact (Reads.done true).andThen_handles passes

/-- Every field but the last leaves the sequence of the others. -/
theorem nextField_andThen {bound index : Nat} {next : Nat × Option Nat → Reader Value}
    (continues : ∀ value remaining rest, Sequence WellFormed remaining rest →
      (next (value, remaining)).Passes rest)
    (sequence : Sequence WellFormed length content) :
    ((nextField bound index length).andThen next).Passes content := by
  rw [nextField, andThen_assoc]
  refine hasNext_andThen (fun _ wellFormed => wellFormed.begins) ?_ ?_ sequence
  · exact Handles.andThen (handles_reject _ [] fun _ => False) fun _ never => never.elim
  · intro first rest isFirst sequence
    have taken : ((field bound).map fun value => (value, length.map (· - 1))).Handles first
        fun found => found.2 = length.map (· - 1) :=
      Handles.map (field_passes bound isFirst) fun _ _ => rfl
    refine taken.andThen fun found isRemaining => ?_
    obtain ⟨value, remaining⟩ := found
    obtain rfl : remaining = length.map (· - 1) := isRemaining
    exact continues value _ rest sequence

/-- The items behind the fields are surplus or there are none. -/
theorem noMoreFields_passes (sequence : Sequence WellFormed length content) :
    (noMoreFields length).Passes content := by
  refine hasNext_andThen (fun _ wellFormed => wellFormed.begins) ?_ ?_ sequence
  · exact handles_done trivial
  · intro first rest isFirst _
    refine Handles.andThen (skip_passes isFirst (nestingLimit - 2)) fun _ _ => ?_
    exact handles_reject _ _ _

/-- The items of an array are a record or something else. -/
theorem arrayRecord_passes (sequence : Sequence WellFormed length content) :
    (arrayRecord length).Passes content := by
  refine nextField_andThen (fun start remaining rest sequence => ?_) sequence
  refine nextField_andThen (fun duration remaining rest sequence => ?_) sequence
  refine nextField_andThen (fun firstAsn remaining rest sequence => ?_) sequence
  refine nextField_andThen (fun firstGateway remaining rest sequence => ?_) sequence
  refine nextField_andThen (fun secondAsn remaining rest sequence => ?_) sequence
  refine nextField_andThen (fun secondGateway remaining rest sequence => ?_) sequence
  exact (noMoreFields_passes sequence).map _

theorem recordOfBytes_passes (bytes : List UInt8) : (recordOfBytes bytes).Passes [] := by
  unfold recordOfBytes
  split
  · exact handles_done trivial
  · exact handles_reject _ _ _

theorem recordsOfBytes_passes (bytes : List UInt8) : (recordsOfBytes bytes).Passes [] := by
  unfold recordsOfBytes
  split
  · exact handles_done trivial
  · exact handles_reject _ _ _

/-- The bytes of a string are collected up to its end. -/
theorem collected_passes {next : List UInt8 → Reader Value}
    (passes : ∀ bytes, (next bytes).Passes []) (body : StringBody .bytes length content) :
    ((string .bytes collector 0 [] length).andThen next).Passes content :=
  (string_handles collector_copes (fun _ _ => trivial) body).finish fun bytes _ => passes bytes

/-- Six integers make a record, and so do six bytes. -/
theorem record_passes (wellFormed : WellFormed bytes) : record.Passes bytes := by
  refine untagged_andThen (fun found content body => ?_) wellFormed
  cases body with
  | array sequence => exact arrayRecord_passes sequence
  | bytes body => exact collected_passes recordOfBytes_passes body
  | _ => exact handles_reject _ _ _

/-- A well-formed item is an archive or something else. -/
theorem records_passes (wellFormed : WellFormed bytes) : records.Passes bytes := by
  refine untagged_andThen (fun found content body => ?_) wellFormed
  cases body with
  | array sequence =>
      exact items_passes (fun _ wellFormed => wellFormed.begins) (fun _ => record_passes) sequence
  | bytes body => exact collected_passes recordsOfBytes_passes body
  | _ => exact handles_reject _ _ _

/-- Bytes that are one well-formed item are an archive or hold an item of another shape.
They are neither truncated nor malformed. -/
theorem decode_wellFormed {bytes : List UInt8} (wellFormed : WellFormed bytes) :
    (∃ contacts, decode bytes = .ok contacts) ∨
      ∃ misfit, decode bytes = .error (.unreadable (.misfit misfit)) := by
  have fair := records_passes wellFormed 0 []
  rw [List.append_nil] at fair
  unfold decode
  generalize records ⟨0, bytes⟩ = outcome at fair
  cases fair with
  | @ok found isGood =>
      obtain ⟨contacts, rest⟩ := found
      obtain ⟨-, rfl⟩ := isGood
      exact .inl ⟨contacts, rfl⟩
  | misfit misfit => exact .inr ⟨misfit, rfl⟩

/-- A map of open length has one key, which is a text in two chunks. -/
def openMapBytes : List UInt8 :=
  [0xBF, 0x7F, 0x62, 0xC3, 0xA9, 0x60, 0xFF, 0xF9, 0x3C, 0x00, 0xFF]

/-- The map is well-formed, although its key comes in segments. -/
theorem wellFormed_openMapBytes : WellFormed openMapBytes := by
  have full : Chunk .text ([0x62] ++ [0xC3, 0xA9]) :=
    .chunk (.short (by decide)) ⟨[Char.ofNat 0xE9], by decide⟩
  have empty : Chunk .text ([0x60] ++ []) := .chunk (.short (by decide)) Utf8.valid_nil
  have key : WellFormed [0x7F, 0x62, 0xC3, 0xA9, 0x60, 0xFF] :=
    .openString (List.forall_mem_cons.mpr ⟨full, List.forall_mem_singleton.mpr empty⟩)
  have half : Head 7 0x3C00 [0xF9, 0x3C, 0x00] := .long (show 1 < 4 by decide) rfl rfl
  have value : WellFormed [0xF9, 0x3C, 0x00] := .simple half (by decide)
  have single : WellFormed (openHead 5 ::
      (([([0x7F, 0x62, 0xC3, 0xA9, 0x60, 0xFF], [0xF9, 0x3C, 0x00])].map
        fun pair => pair.1 ++ pair.2).flatten ++ [breakByte])) :=
    .openMap (List.forall_mem_singleton.mpr key) (List.forall_mem_singleton.mpr value)
  exact single

/-- A record of open length has integers in several forms and the map as a seventh item. -/
def surplusItems : List (List UInt8) :=
  [[0x01], [0x18, 0x02], [0xC1, 0x03], [0xC2, 0x42, 0x00, 0x04], [0x05], [0x06], openMapBytes]

/-- The length of the array has eight bytes, although one would do. -/
def surplusArchive : List UInt8 :=
  [0x9B, 0, 0, 0, 0, 0, 0, 0, 1] ++ [0x9F :: (surplusItems.flatten ++ [0xFF])].flatten

/-- The archive is well-formed, although its record has an item too many. -/
theorem wellFormed_surplusArchive : WellFormed surplusArchive := by
  have small {value : Nat} (isSmall : value < 24) : WellFormed [UInt8.ofNat value] :=
    .unsigned (head_of_small isSmall)
  have wide : Head 0 2 [0x18, 0x02] := .long (show 0 < 4 by decide) rfl rfl
  have tagged : WellFormed ([0xC1] ++ [0x03]) :=
    .tag (.short (show 1 < 24 by decide)) (small (show 3 < 24 by decide))
  have digits : Chunk .bytes ([0x42] ++ [0x00, 0x04]) := .chunk (.short (by decide)) trivial
  have big : WellFormed ([0xC2] ++ [0x42, 0x00, 0x04]) :=
    .tag (.short (show 2 < 24 by decide)) (.string digits)
  have items : ∀ item ∈ surplusItems, WellFormed item := by
    simp only [surplusItems, List.forall_mem_cons]
    exact ⟨small (show 1 < 24 by decide), .unsigned wide, tagged, big,
      small (show 5 < 24 by decide), small (show 6 < 24 by decide), wellFormed_openMapBytes,
      List.forall_mem_nil _⟩
  have isHead : Head 4 1 [0x9B, 0, 0, 0, 0, 0, 0, 0, 1] := .long (show 3 < 4 by decide) rfl rfl
  exact .array isHead (List.forall_mem_singleton.mpr (.openArray items))

set_option maxRecDepth 2000 in
/-- A surplus item is passed over to its end, and then the archive is refused because its record has
seven items. -/
theorem decode_wellFormed_surplus :
    WellFormed surplusArchive ∧
      decode surplusArchive = .error (.unreadable (.misfit (.wrongLength 7))) ∧
      ((∃ contacts, decode surplusArchive = .ok contacts) ∨
        ∃ misfit, decode surplusArchive = .error (.unreadable (.misfit misfit))) :=
  ⟨wellFormed_surplusArchive, by cbv, decode_wellFormed wellFormed_surplusArchive⟩

end ContactPlan.Archive
