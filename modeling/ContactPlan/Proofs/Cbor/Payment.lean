import ContactPlan.Cbor.Skip
import Mathlib.Tactic.SplitIfs

/-
This file says what it means that the bytes that a reader takes pay for what it finds.
What is found may be worth more when there is a credit from before.
-/

namespace ContactPlan.Cbor

namespace Reader

/-- The value is not worth more than the credit and the bytes that the reader takes. -/
def Pays {Value : Type} (reader : Reader Value) (credit : Nat) (worth : Value → Nat) : Prop :=
  ∀ (cursor : Cursor) (value : Value) (rest : Cursor), reader cursor = .ok (value, rest) →
    rest.bytes.length + worth value ≤ cursor.bytes.length + credit

/-- A turn leaves a state with its weight or ends with a value. -/
def Turn.worth {State Value : Type} (weight : State → Nat) (worth : Value → Nat) :
    Turn State Value → Nat
  | .again state => weight state
  | .finished value => worth value

variable {First Second Value State : Type} {credit : Nat} {worth : Value → Nat}

/-- A reader that takes no bytes finds what is covered by the credit. -/
theorem pays_done {value : Value} (enough : worth value ≤ credit) :
    (Reader.done value).Pays credit worth := by
  intro cursor found rest isFound
  cases isFound
  exact Nat.add_le_add_left enough _

/-- A reader that fails owes nothing. -/
theorem pays_fail (fault : Fault) : (Reader.fail fault : Reader Value).Pays credit worth := by
  intro cursor found rest isFound
  cases isFound

/-- A reader that finds nothing has nothing to pay for. -/
theorem pays_reject (misfit : Misfit) :
    (Reader.reject misfit : Reader Value).Pays credit worth := pays_fail (.misfit misfit)

/-- A result is paid for by the credit alone. -/
theorem pays_lift {result : Except Fault Value}
    (enough : ∀ value, result = .ok value → worth value ≤ credit) :
    (Reader.lift result).Pays credit worth := by
  cases result with
  | ok value => exact pays_done (enough value rfl)
  | error fault => exact pays_fail fault

theorem pays_offset (credit : Nat) : Reader.offset.Pays credit fun _ => credit := by
  intro cursor found rest isFound
  cases isFound
  exact Nat.le_refl _

theorem pays_byte : Reader.byte.Pays 0 fun _ => 1 := by
  rintro ⟨offset, bytes⟩ found rest isFound
  cases bytes with
  | nil => cases isFound
  | cons first others =>
      cases isFound
      exact Nat.le_refl _

theorem pays_take (count : Nat) : (Reader.take count).Pays 0 List.length := by
  intro cursor found rest isFound
  simp only [Reader.take] at isFound
  split_ifs at isFound with enough
  cases isFound
  simp only [List.length_take, List.length_drop] at enough ⊢
  omega

/-- A credit that is not touched is left over. -/
theorem Pays.onCredit {reader : Reader Value} (pays : reader.Pays 0 worth) (credit : Nat) :
    reader.Pays credit fun value => credit + worth value := by
  intro cursor found rest isFound
  have paid := pays cursor found rest isFound
  change _ + (credit + worth found) ≤ _
  omega

theorem Pays.imp {reader : Reader Value} {less : Value → Nat} (pays : reader.Pays credit worth)
    (below : ∀ value, less value ≤ worth value) : reader.Pays credit less := by
  intro cursor found rest isFound
  have paid := pays cursor found rest isFound
  have cheaper := below found
  omega

/-- What the first reader finds is the credit of the second one. -/
theorem Pays.andThen {first : Reader First} {next : First → Reader Value} {middle : First → Nat}
    (pays : first.Pays credit middle)
    (continues : ∀ value, (next value).Pays (middle value) worth) :
    (first.andThen next).Pays credit worth := by
  intro cursor found rest isFound
  unfold Reader.andThen at isFound
  split at isFound
  next value between outcome =>
    exact Nat.le_trans (continues value between found rest isFound)
      (pays cursor value between outcome)
  next => cases isFound

/-- What comes before a rejection is not paid for. -/
theorem pays_andThen_reject (first : Reader First) (misfit : Misfit) :
    (first.andThen fun _ => (Reader.reject misfit : Reader Value)).Pays credit worth := by
  intro cursor found rest isFound
  unfold Reader.andThen at isFound
  split at isFound <;> cases isFound

/-- A function must not make more of what is found than was paid for. -/
theorem Pays.map {reader : Reader First} {middle : First → Nat} (pays : reader.Pays credit middle)
    {function : First → Value} (enough : ∀ value, worth (function value) ≤ middle value) :
    (reader.map function).Pays credit worth :=
  pays.andThen fun value => pays_done (enough value)

/-- To look ahead takes nothing. -/
theorem pays_peek (reader : Reader Value) (credit : Nat) :
    (Reader.peek reader).Pays credit fun _ => credit := by
  intro cursor found rest isFound
  unfold Reader.peek at isFound
  split at isFound
  · cases isFound
    exact Nat.le_refl _
  · cases isFound

theorem pays_unsigned (width : Nat) : (Reader.unsigned width).Pays 0 fun _ => 0 :=
  (pays_take width).map fun _ => Nat.zero_le _

/-- A loop pays when each of its turns pays for the state that it leaves. -/
theorem pays_loop {turn : State → Reader (Turn State Value)} (weight : State → Nat)
    (pays : ∀ state, (turn state).Pays (weight state) (Turn.worth weight worth)) (state : State) :
    Reader.Pays (Reader.loop turn state) (weight state) worth := by
  intro cursor found rest isFound
  generalize left : cursor.bytes.length = length
  induction length using Nat.strongRecOn generalizing state cursor with
  | ind length inductionHypothesis =>
      rw [Reader.loop] at isFound
      split at isFound
      next => cases isFound
      next value between outcome =>
        cases isFound
        exact left ▸ pays state cursor _ _ outcome
      next next between outcome =>
        split_ifs at isFound with shorter
        have paid := pays state cursor _ _ outcome
        rw [left] at shorter paid
        exact Nat.le_trans (inductionHypothesis _ shorter next between isFound rfl) paid

/-- Items that pay the same price each pay for a list of them. -/
theorem Pays.times {item : Reader Value} {price : Nat} (pays : item.Pays 0 fun _ => price)
    (count : Nat) : (Reader.times item count).Pays 0 fun values => price * values.length := by
  induction count with
  | zero => exact pays_done (Nat.le_refl _)
  | succ count inductionHypothesis =>
      refine pays.andThen fun value => (inductionHypothesis.onCredit price).map fun values => ?_
      exact Nat.le_of_eq (by rw [List.length_cons, Nat.mul_succ, Nat.add_comm])

end Reader

open Reader

theorem pays_argument (start information : Nat) :
    (argument start information).Pays 0 fun _ => 0 := by
  unfold argument
  split_ifs
  · exact pays_done (Nat.le_refl _)
  · exact (pays_unsigned 1).map fun _ => Nat.le_refl _
  · exact (pays_unsigned 2).map fun _ => Nat.le_refl _
  · exact (pays_unsigned 4).map fun _ => Nat.le_refl _
  · exact (pays_unsigned 8).map fun _ => Nat.le_refl _
  · exact pays_done (Nat.le_refl _)
  · exact pays_fail _

/-- Every header takes a byte at least. -/
theorem pays_header : header.Pays 0 fun _ => 1 := by
  refine (pays_offset 0).andThen fun start => pays_byte.andThen fun first => ?_
  refine ((pays_argument start _).onCredit 1).andThen fun argument => ?_
  split
  · exact pays_done (Nat.le_refl _)
  · exact pays_fail _

/-- It does not matter whether the number of items is known. -/
theorem pays_items {Value : Type} {item : Reader Value} {price : Nat}
    (pays : item.Pays 0 fun _ => price) (length : Option Nat) :
    (items item length).Pays 0 fun values => price * values.length := by
  cases length with
  | some length => exact pays.times length
  | none =>
      refine pays_loop (fun values => price * values.length) (fun values => ?_) []
      refine (pays_peek header _).andThen fun next => ?_
      split
      · refine (pays_header.onCredit _).map fun _ => ?_
        change price * values.reverse.length ≤ _
        rw [List.length_reverse]
        exact Nat.le_add_right _ _
      · refine (pays.onCredit _).map fun value => ?_
        change price * (value :: values).length ≤ _
        exact Nat.le_of_eq (by rw [List.length_cons, Nat.mul_succ])

/-- The pieces that a consumer takes pay for the weight of its state. -/
structure Consumer.Pays {State : Type} (consumer : Consumer State) (weight : State → Nat) :
    Prop where
  take {start : Nat} {state next : State} {piece : List UInt8}
    (taken : consumer.take start state piece = .ok next) : weight next ≤ weight state + piece.length
  finish {start : Nat} {state next : State} (finished : consumer.finish start state = .ok next) :
    weight next ≤ weight state

section Strings

variable {State : Type} {consumer : Consumer State} {weight : State → Nat}

/-- The pieces of a segment pay for what the consumer makes of them. -/
theorem pays_pieces (pays : consumer.Pays weight) (start : Nat) (state : State) (length : Nat) :
    (pieces consumer start state length).Pays (weight state) weight := by
  induction length using Nat.strongRecOn generalizing state with
  | ind length inductionHypothesis =>
      rw [pieces]
      split
      · exact pays_lift fun next finished => pays.finish finished
      · refine ((pays_take _).onCredit (weight state)).andThen fun piece => ?_
        refine (pays_lift fun next taken => pays.take taken).andThen fun next => ?_
        exact inductionHypothesis _ (by omega) next

/-- The segments of a string pay for what the consumer makes of them. -/
theorem pays_segments (pays : consumer.Pays weight) (kind : StringKind) (state : State) :
    (segments kind consumer state).Pays (weight state) weight := by
  refine pays_loop (fun pending => weight pending.2) (fun pending => ?_) (1, state)
  -- Headers are not needed to pay for what the consumer makes of the pieces between them.
  have headerPays : header.Pays (weight pending.2) fun _ => weight pending.2 :=
    (pays_header.onCredit _).imp fun _ => Nat.le_add_right _ _
  refine (pays_offset _).andThen fun start => headerPays.andThen fun next => ?_
  split
  · split_ifs
    · exact pays_done (Nat.le_refl _)
    · exact pays_done (Nat.le_refl _)
  · split
    · exact (pays_pieces pays start _ _).map fun _ => Nat.le_refl _
    · exact pays_done (Nat.le_refl _)
    · exact pays_fail _

/-- A string pays for what its consumer makes of it, however it is cut into segments. -/
theorem pays_string (pays : consumer.Pays weight) (kind : StringKind) (start : Nat)
    (state : State) (length : Option Nat) :
    (string kind consumer start state length).Pays (weight state) weight := by
  cases length with
  | some length => exact pays_pieces pays start state length
  | none => exact pays_segments pays kind state

end Strings

end ContactPlan.Cbor
