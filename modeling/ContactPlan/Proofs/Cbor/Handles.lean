import ContactPlan.Proofs.Cbor.Reads

namespace ContactPlan.Cbor

/-- A result is fair when it is good or says that an item has another shape. -/
inductive Fair {Value : Type} (good : Value → Prop) : Except Fault Value → Prop where
  | ok {value : Value} (isGood : good value) : Fair good (.ok value)
  | misfit (misfit : Misfit) : Fair good (.error (.misfit misfit))

namespace Reader

/-- The reader takes exactly these bytes and finds something good, unless the shape does not fit. -/
def Handles {Value : Type} (reader : Reader Value) (bytes : List UInt8) (good : Value → Prop) :
    Prop :=
  ∀ (offset : Nat) (rest : List UInt8),
    Fair (fun found => good found.1 ∧ found.2 = ⟨offset + bytes.length, rest⟩)
      (reader ⟨offset, bytes ++ rest⟩)

/-- Whatever the reader finds is good. -/
def Passes {Value : Type} (reader : Reader Value) (bytes : List UInt8) : Prop :=
  reader.Handles bytes fun _ => True

/-- A turn goes on with a state or ends with a value. -/
def Turn.Goes {State Value : Type} (keeps : State → Prop) (good : Value → Prop) :
    Turn State Value → Prop
  | .again state => keeps state
  | .finished value => good value

variable {First Second Value State : Type}

/-- It does not matter which of three readers are composed first. -/
theorem andThen_assoc {Third : Type} (first : Reader First) (next : First → Reader Second)
    (last : Second → Reader Third) :
    (first.andThen next).andThen last = first.andThen fun value => (next value).andThen last := by
  funext cursor
  unfold andThen
  cases first cursor <;> rfl

/-- A reader copes with bytes that it reads. -/
theorem Reads.handles {reader : Reader Value} {bytes : List UInt8} {value : Value}
    (takes : reader.Reads bytes value) {good : Value → Prop} (isGood : good value) :
    reader.Handles bytes good := by
  intro offset rest
  rw [takes offset rest]
  exact .ok ⟨isGood, rfl⟩

/-- Bytes that are read are passed. -/
theorem Reads.passes {reader : Reader Value} {bytes : List UInt8} {value : Value}
    (takes : reader.Reads bytes value) : reader.Passes bytes := takes.handles trivial

/-- What is good for more may be asked of what is found. -/
theorem Handles.imp {reader : Reader Value} {bytes : List UInt8} {good result : Value → Prop}
    (handles : reader.Handles bytes good) (implies : ∀ value, good value → result value) :
    reader.Handles bytes result := by
  intro offset rest
  have reached := handles offset rest
  generalize reader ⟨offset, bytes ++ rest⟩ = outcome at reached
  cases reached with
  | ok isGood => exact .ok ⟨implies _ isGood.1, isGood.2⟩
  | misfit misfit => exact .misfit misfit

theorem Handles.passes {reader : Reader Value} {bytes : List UInt8} {good : Value → Prop}
    (handles : reader.Handles bytes good) : reader.Passes bytes :=
  handles.imp fun _ _ => trivial

theorem handles_done {value : Value} {good : Value → Prop} (isGood : good value) :
    (Reader.done value).Handles [] good := (Reads.done value).handles isGood

/-- What is rejected need not be read to its end. -/
theorem handles_reject (misfit : Misfit) (bytes : List UInt8) (good : Value → Prop) :
    (Reader.reject misfit : Reader Value).Handles bytes good := fun _ _ => .misfit misfit

/-- The second reader has to cope with everything that the first one may find. -/
theorem Handles.andThen {first : Reader First} {next : First → Reader Second}
    {left right : List UInt8} {good : First → Prop} {result : Second → Prop}
    (handlesLeft : first.Handles left good)
    (handlesRight : ∀ value, good value → (next value).Handles right result) :
    (first.andThen next).Handles (left ++ right) result := by
  intro offset rest
  have reached := handlesLeft offset (right ++ rest)
  rw [List.append_assoc, List.length_append, ← Nat.add_assoc]
  unfold Reader.andThen
  generalize first ⟨offset, left ++ (right ++ rest)⟩ = outcome at reached
  cases reached with
  | @ok found isGood =>
      obtain ⟨value, cursor⟩ := found
      obtain ⟨isGood, rfl⟩ := isGood
      exact handlesRight value isGood (offset + left.length) rest
  | misfit misfit => exact .misfit misfit

/-- The first reader takes its bytes, and the second one copes with the others. -/
theorem Reads.andThen_handles {first : Reader First} {next : First → Reader Second}
    {left right : List UInt8} {value : First} {result : Second → Prop}
    (takes : first.Reads left value) (handles : (next value).Handles right result) :
    (first.andThen next).Handles (left ++ right) result :=
  Handles.andThen (takes.handles rfl) fun _ isValue => isValue ▸ handles

/-- The second reader may take nothing. -/
theorem Handles.finish {first : Reader First} {next : First → Reader Second}
    {bytes : List UInt8} {good : First → Prop} {result : Second → Prop}
    (handles : first.Handles bytes good)
    (finishes : ∀ value, good value → (next value).Handles [] result) :
    (first.andThen next).Handles bytes result := by
  have finished := handles.andThen finishes
  rw [List.append_nil] at finished
  exact finished

theorem Handles.map {reader : Reader First} {bytes : List UInt8} {good : First → Prop}
    (handles : reader.Handles bytes good) {function : First → Second} {result : Second → Prop}
    (keeps : ∀ value, good value → result (function value)) :
    (reader.map function).Handles bytes result :=
  handles.finish fun value isGood => handles_done (keeps value isGood)

theorem Passes.map {reader : Reader First} {bytes : List UInt8} (passes : reader.Passes bytes)
    (function : First → Second) : (reader.map function).Passes bytes :=
  Handles.map passes fun _ _ => trivial

/-- The place where a reader stands does not matter for what it copes with. -/
theorem handles_offset {next : Nat → Reader Value} {bytes : List UInt8} {good : Value → Prop}
    (handles : ∀ start, (next start).Handles bytes good) :
    (Reader.offset.andThen next).Handles bytes good :=
  fun offset rest => handles offset offset rest

/-- A reader that has only looked ahead leaves all the bytes to the next one. -/
theorem Reads.peek_handles {first : Reader First} {next : First → Reader Second}
    {left right : List UInt8} {value : First} {good : Second → Prop}
    (takes : first.Reads left value) (handles : (next value).Handles (left ++ right) good) :
    ((Reader.peek first).andThen next).Handles (left ++ right) good := by
  intro offset rest
  have reached := takes offset (right ++ rest)
  rw [← List.append_assoc] at reached
  simp only [Reader.andThen, Reader.peek, reached]
  exact handles offset rest

/-- A turn that takes something can be followed by further ones. -/
theorem Handles.loop_again {turn : State → Reader (Turn State Value)} {state : State}
    {left right : List UInt8} {keeps : State → Prop} {result : Value → Prop}
    (handles : (turn state).Handles left (Turn.Goes keeps fun _ => False)) (takes : left ≠ [])
    (continues : ∀ state, keeps state → Reader.Handles (Reader.loop turn state) right result) :
    Reader.Handles (Reader.loop turn state) (left ++ right) result := by
  intro offset rest
  have reached := handles offset (right ++ rest)
  rw [List.append_assoc, List.length_append, ← Nat.add_assoc, Reader.loop]
  generalize turn state ⟨offset, left ++ (right ++ rest)⟩ = outcome at reached
  cases reached with
  | @ok found isGood =>
      obtain ⟨next, cursor⟩ := found
      obtain ⟨goes, rfl⟩ := isGood
      cases next with
      | finished value => exact goes.elim
      | again next =>
          have shorter : (right ++ rest).length < (left ++ (right ++ rest)).length := by
            have positive := List.length_pos_iff.mpr takes
            simp only [List.length_append]
            omega
          simp only [if_pos shorter]
          exact continues next goes (offset + left.length) rest
  | misfit misfit => exact .misfit misfit

/-- A turn that goes on takes the front of what the loop copes with. -/
theorem Reads.loop_again {turn : State → Reader (Turn State Value)} {state next : State}
    {left right : List UInt8} {result : Value → Prop}
    (reads : (turn state).Reads left (.again next)) (takes : left ≠ [])
    (continues : Reader.Handles (Reader.loop turn next) right result) :
    Reader.Handles (Reader.loop turn state) (left ++ right) result := by
  have again : Turn.Goes (fun state => state = next) (fun _ : Value => False) (.again next) := rfl
  exact (reads.handles again).loop_again takes fun _ isNext => isNext ▸ continues

/-- A loop may finish in its first turn. -/
theorem Handles.loop_finished {turn : State → Reader (Turn State Value)} {state : State}
    {bytes : List UInt8} {result : Value → Prop}
    (handles : (turn state).Handles bytes (Turn.Goes (fun _ => False) result)) :
    Reader.Handles (Reader.loop turn state) bytes result := by
  intro offset rest
  have reached := handles offset rest
  rw [Reader.loop]
  generalize turn state ⟨offset, bytes ++ rest⟩ = outcome at reached
  cases reached with
  | @ok found isGood =>
      obtain ⟨next, cursor⟩ := found
      obtain ⟨goes, rfl⟩ := isGood
      cases next with
      | finished value => exact .ok ⟨goes, rfl⟩
      | again next => exact goes.elim
  | misfit misfit => exact .misfit misfit

/-- A loop copes with parts that each take a turn, and with the end behind them. -/
theorem handles_loop {turn : State → Reader (Turn State Value)} {keeps : State → Prop}
    {result : Value → Prop} {parts : List (List UInt8)} {last : List UInt8}
    (again : ∀ part ∈ parts, part ≠ [] ∧ ∀ state, keeps state →
      (turn state).Handles part (Turn.Goes keeps fun _ => False))
    (finished : ∀ state, keeps state →
      (turn state).Handles last (Turn.Goes (fun _ => False) result))
    {state : State} (kept : keeps state) :
    Reader.Handles (Reader.loop turn state) (parts.flatten ++ last) result := by
  induction parts generalizing state with
  | nil => exact (finished state kept).loop_finished
  | cons first others inductionHypothesis =>
      obtain ⟨takes, handles⟩ := again first List.mem_cons_self
      rw [List.flatten_cons, List.append_assoc]
      refine (handles state kept).loop_again takes fun next keptNext => ?_
      exact inductionHypothesis (fun part member => again part (List.mem_cons_of_mem first member))
        keptNext

/-- A reader copes with as many parts as it is told when it copes with each of them. -/
theorem passes_times {item : Reader Value} {parts : List (List UInt8)}
    (passes : ∀ part ∈ parts, item.Passes part) :
    (Reader.times item parts.length).Passes parts.flatten := by
  induction parts with
  | nil => exact (Reads.done []).passes
  | cons first others inductionHypothesis =>
      have passesOthers := inductionHypothesis fun part member =>
        passes part (List.mem_cons_of_mem first member)
      exact (passes first List.mem_cons_self).andThen fun value _ => passesOthers.map (value :: ·)

end Reader

end ContactPlan.Cbor
