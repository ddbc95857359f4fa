import ContactPlan.Cbor.Skip
import ContactPlan.Proofs.Cbor.Handles
import ContactPlan.Proofs.Cbor.WellFormed

namespace ContactPlan.Cbor

open Reader

theorem handles_lift {Value : Type} {result : Except Fault Value} {good : Value → Prop}
    (fair : Fair good result) : (Reader.lift result).Handles [] good := by
  intro offset rest
  cases fair with
  | ok isGood => exact .ok ⟨isGood, rfl⟩
  | misfit misfit => exact .misfit misfit

/-- A state is ready when it admits every chunk of the kind. -/
def StringKind.Ready {State : Type} (kind : StringKind) (admits : State → List UInt8 → Prop)
    (state : State) : Prop :=
  ∀ content, kind.Admits content → admits state content

/-- A consumer that admits what a chunk still holds copes with its next piece and with its end.
Then it is ready for a further chunk. -/
structure Consumer.Copes {State : Type} (consumer : Consumer State) (kind : StringKind)
    (admits : State → List UInt8 → Prop) : Prop where
  take : ∀ {start : Nat} {state : State} {piece rest : List UInt8}, admits state (piece ++ rest) →
    Fair (fun next => admits next rest) (consumer.take start state piece)
  finish : ∀ {start : Nat} {state : State}, admits state [] →
    Fair (kind.Ready admits) (consumer.finish start state)

section Strings

variable {State : Type} {consumer : Consumer State} {kind : StringKind}
  {admits : State → List UInt8 → Prop} (copes : consumer.Copes kind admits)
include copes

/-- A segment is taken in pieces up to its end. -/
theorem pieces_handles {start : Nat} {state : State} {content : List UInt8}
    (admitted : admits state content) :
    (pieces consumer start state content.length).Handles content (kind.Ready admits) := by
  generalize counted : content.length = length
  induction length using Nat.strongRecOn generalizing state content with
  | ind length inductionHypothesis =>
      rw [pieces]
      split
      next ended =>
        obtain rfl := List.eq_nil_of_length_eq_zero (counted.trans ended)
        exact handles_lift (copes.finish admitted)
      next left =>
        let size := min (max 1 (consumer.room state)) length
        have positive : 0 < size := by omega
        have taken : (content.take size).length = size := by
          rw [List.length_take]
          omega
        have remaining : (content.drop size).length = length - size := by
          rw [List.length_drop, counted]
        rw [← List.take_append_drop size content] at admitted ⊢
        refine (Reads.take taken).andThen_handles ?_
        refine (handles_lift (copes.take admitted)).andThen fun next admitsNext => ?_
        exact inductionHypothesis (length - size) (by omega) admitsNext remaining

/-- The segments of an open string are taken up to the break. -/
theorem segments_handles {state : State} (ready : kind.Ready admits state)
    {chunks : List (List UInt8)} (areChunks : ∀ chunk ∈ chunks, Chunk kind chunk) :
    (segments kind consumer state).Handles (chunks.flatten ++ [breakByte])
      (kind.Ready admits) := by
  -- No string of open length stands inside another one, so that only one break is pending.
  let keeps (pending : Nat × State) : Prop := pending.1 = 1 ∧ kind.Ready admits pending.2
  have kept : keeps (1, state) := ⟨rfl, ready⟩
  refine handles_loop ?_ ?_ kept
  · intro chunk member
    obtain ⟨head, content, found, rfl, reads, isLength, admitted⟩ := (areChunks chunk member).reads
    refine ⟨List.append_ne_nil_of_left_ne_nil (header_reads_ne_nil reads) content, ?_⟩
    rintro ⟨pending, state⟩ ⟨rfl, ready⟩
    refine handles_offset fun start => reads.andThen_handles ?_
    split
    · cases kind <;> cases isLength
    · simp only [isLength]
      refine (pieces_handles copes (ready content admitted)).map fun next ready => ?_
      exact ⟨rfl, ready⟩
  · rintro ⟨pending, state⟩ ⟨rfl, ready⟩
    refine handles_offset fun start => breakByte_reads.andThen_handles ?_
    exact handles_done ready

/-- A string is read to its end if its consumer is ready for it. -/
theorem string_handles {start : Nat} {state : State} (ready : kind.Ready admits state)
    {length : Option Nat} {content : List UInt8} (body : StringBody kind length content) :
    (string kind consumer start state length).Handles content (kind.Ready admits) := by
  cases body with
  | whole admitted => exact pieces_handles copes (ready content admitted)
  | chunked areChunks => exact segments_handles copes ready areChunks

end Strings

/-- A consumer that ignores its pieces copes with all bytes. -/
theorem ignorer_copes : ignorer.Copes .bytes fun _ _ => True where
  take _ := .ok trivial
  finish _ := .ok fun _ _ => trivial

theorem collector_copes : collector.Copes .bytes fun _ _ => True where
  take _ := .ok trivial
  finish _ := .ok fun _ _ => trivial

/-- A big number is either taken or too large. -/
theorem significant_fair (digits bytes : List UInt8) :
    Fair (fun _ => True) (significant digits bytes) := by
  induction bytes generalizing digits with
  | nil => exact .ok trivial
  | cons first rest inductionHypothesis =>
      rw [significant]
      split_ifs
      · exact .misfit .largeBigNumber
      · exact inductionHypothesis digits
      · exact inductionHypothesis (digits ++ [first])

/-- A big number may have any bytes, even if it is too large. -/
theorem bigNumberBuilder_copes : bigNumberBuilder.Copes .bytes fun _ _ => True where
  take _ := significant_fair _ _
  finish _ := .ok fun _ _ => trivial

/-- The state is the beginning of a character, which the content completes. -/
def Completes (state content : List UInt8) : Prop :=
  Utf8.frontWidth? state = none ∧ Utf8.Valid (state ++ content)

/-- A text may begin with any character. -/
theorem completes_nil : StringKind.text.Ready Completes [] := fun _ valid => ⟨rfl, valid⟩

/-- A consumer that checks a text copes with valid ones. -/
theorem textChecker_copes : textChecker.Copes .text Completes where
  take := by
    rintro start state piece rest ⟨-, valid⟩
    rw [← List.append_assoc] at valid
    obtain ⟨validAgain, short⟩ := valid.invalidRest
    have notLong : ¬3 < (Utf8.invalidRest (state ++ piece)).length := Nat.not_lt.mpr short
    simp only [textChecker, if_neg notLong]
    exact .ok ⟨Utf8.frontWidth?_invalidRest _, validAgain⟩
  finish := by
    rintro start state ⟨cut, valid⟩
    rw [List.append_nil] at valid
    obtain rfl := valid.eq_nil cut
    exact .ok completes_nil

/-- A byte string behind the tag of a big number is read, and no other item fits there. -/
theorem bigNumber_passes (negative : Bool) {bytes : List UInt8} (wellFormed : WellFormed bytes) :
    (bigNumber negative).Passes bytes := by
  refine wellFormed.byHeader ?_ ?_
  · intro head item number reads _ _
    exact reads.andThen_handles (handles_reject _ _ _)
  · intro head content found reads body
    refine reads.andThen_handles ?_
    cases body with
    | @bytes length content body =>
        have handles : (string .bytes bigNumberBuilder 0 [] length).Handles content _ :=
          string_handles bigNumberBuilder_copes (fun _ _ => trivial) body
        exact handles.map fun _ _ => trivial
    | _ => exact handles_reject _ _ _

end ContactPlan.Cbor
