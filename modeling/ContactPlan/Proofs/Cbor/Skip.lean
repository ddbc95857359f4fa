import ContactPlan.Proofs.Cbor.Strings

namespace ContactPlan.Cbor

open Reader

/-- The items of a sequence are read up to its end when a reader copes with each of them. -/
theorem items_passes {Value : Type} {item : Reader Value} {part : List UInt8 → Prop}
    (begins : ∀ bytes, part bytes → Begins bytes) (passes : ∀ bytes, part bytes → item.Passes bytes)
    {length : Option Nat} {content : List UInt8} (sequence : Sequence part length content) :
    (items item length).Passes content := by
  cases sequence with
  | counted areParts => exact passes_times fun bytes member => passes bytes (areParts bytes member)
  | untilBreak areParts =>
      let keeps (_ : List Value) : Prop := True
      have kept : keeps [] := trivial
      refine handles_loop ?_ ?_ kept
      · intro bytes member
        have begun := begins bytes (areParts bytes member)
        refine ⟨begun.ne_nil, fun values _ => ?_⟩
        have passed := passes bytes (areParts bytes member)
        obtain ⟨head, rest, found, rfl, reads, notStop⟩ := begun
        refine reads.peek_handles ?_
        split
        · exact absurd rfl notStop
        · exact Handles.map passed fun _ _ => trivial
      · intro values _
        rw [← List.append_nil [breakByte]]
        refine breakByte_reads.peek_handles ?_
        exact (breakByte_reads.map _).handles trivial

/-- A container is passed if its content is passed with the level that is left. -/
theorem nested_passes {Value : Type} {inner : Option (Reader Unit)}
    {content : Reader Unit → Reader Value} {bytes : List UInt8}
    (passes : ∀ reader ∈ inner, (content reader).Passes bytes) :
    (nested inner content).Passes bytes := by
  cases inner with
  | none => exact handles_reject _ _ _
  | some reader => exact passes reader rfl

/-- A well-formed item behind the tag of a big number is passed. -/
theorem skipBigNumber_passes (negative : Bool) {bytes : List UInt8}
    (wellFormed : WellFormed bytes) : (skipBigNumber negative).Passes bytes := by
  refine Handles.finish (bigNumber_passes negative wellFormed) fun number _ => ?_
  split_ifs
  · exact handles_reject _ _ _
  · exact handles_done trivial

/-- The item behind a tag is a big number or is passed over like any other. -/
theorem skipTagged_passes {inner : Option (Reader Unit)} (number : Nat) {bytes : List UInt8}
    (wellFormed : WellFormed bytes) (passes : ∀ reader ∈ inner, reader.Passes bytes) :
    (skipTagged inner number).Passes bytes := by
  have nestedPasses : (nested inner id).Passes bytes := nested_passes passes
  have bigPasses := skipBigNumber_passes (number = negativeBigTag) wellFormed
  obtain ⟨head, rest, found, rfl, reads, -⟩ := wellFormed.begins
  refine reads.peek_handles ?_
  split
  · split_ifs
    · exact bigPasses
    · exact nestedPasses
  · exact nestedPasses

/-- Whatever stands behind a header is passed over if the inner reader copes with inner items. -/
theorem skipWith_passes {inner : Option (Reader Unit)} {head content : List UInt8}
    {found : Header} (reads : header.Reads head found) {item : List UInt8 → Prop}
    (begins : ∀ bytes, item bytes → Begins bytes)
    (passes : ∀ reader ∈ inner, ∀ bytes, item bytes → reader.Passes bytes)
    (body : Body item found content) : (skipWith inner).Passes (head ++ content) := by
  refine reads.andThen_handles (handles_offset fun stop => ?_)
  cases body with
  | unsigned value => exact handles_done trivial
  | negative value => exact handles_done trivial
  | bytes body => exact (string_handles ignorer_copes (fun _ _ => trivial) body).passes
  | text body => exact (string_handles textChecker_copes completes_nil body).passes.map _
  | array items =>
      refine nested_passes fun reader isInner => ?_
      exact (items_passes begins (passes reader isInner) items).map _
  | map pairs =>
      refine nested_passes fun reader isInner => ?_
      refine (items_passes ?_ ?_ pairs).map _
      · rintro bytes ⟨key, value, rfl, isKey, -⟩
        exact (begins key isKey).append value
      · rintro bytes ⟨key, value, rfl, isKey, isValue⟩
        exact Handles.andThen (passes reader isInner key isKey) fun _ _ =>
          passes reader isInner value isValue
  | simple number =>
      change Passes (if 20 ≤ number ∧ number ≤ 23 then _ else _) []
      split_ifs
      · exact handles_done trivial
      · exact handles_reject _ _ _
  | float value => exact handles_done trivial

/-- A level of nesting is taken before an inner item is passed over. -/
theorem skip_eq_skipWith (levels : Nat) :
    ∃ inner, skip levels = skipWith inner ∧ ∀ reader ∈ inner, ∃ lower, reader = skip lower := by
  cases levels with
  | zero => exact ⟨none, rfl, fun reader isInner => by cases isInner⟩
  | succ levels =>
      refine ⟨some (skip levels), rfl, fun reader isInner => ?_⟩
      exact ⟨levels, (Option.some.inj isInner).symm⟩

/-- Every well-formed item is passed over, unless it is nested too deep or holds something that is
not known. -/
theorem skip_passes {bytes : List UInt8} (wellFormed : WellFormed bytes) (levels : Nat) :
    (skip levels).Passes bytes := by
  refine wellFormed.byHeader (motive := fun bytes => ∀ levels, (skip levels).Passes bytes)
    ?_ ?_ levels
  · intro head item number reads wellFormed inductionHypothesis levels
    obtain ⟨inner, isSkip, areSkips⟩ := skip_eq_skipWith levels
    rw [isSkip]
    refine reads.andThen_handles (handles_offset fun stop => ?_)
    refine skipTagged_passes number wellFormed fun reader isInner => ?_
    obtain ⟨lower, rfl⟩ := areSkips reader isInner
    exact inductionHypothesis lower
  · intro head content found reads body levels
    obtain ⟨inner, isSkip, areSkips⟩ := skip_eq_skipWith levels
    rw [isSkip]
    refine skipWith_passes reads (fun item isItem => isItem.1.begins) ?_ body
    intro reader isInner item isItem
    obtain ⟨lower, rfl⟩ := areSkips reader isInner
    exact isItem.2 lower

end ContactPlan.Cbor
