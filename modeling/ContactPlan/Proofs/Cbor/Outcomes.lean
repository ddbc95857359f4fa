import ContactPlan.Proofs.Cbor.Skip
import Mathlib.Data.List.Forall2

namespace ContactPlan.Cbor

namespace Reader

/-- The reader takes exactly these bytes for a value, or it rejects them if there is none. -/
inductive Yields {Value : Type} (reader : Reader Value) (bytes : List UInt8) :
    Option Value → Prop where
  | found {value : Value} (takes : reader.Reads bytes value) : Yields reader bytes (some value)
  | rejected (rejects : reader.Handles bytes fun _ => False) : Yields reader bytes none

variable {First Second Source Value State : Type}

theorem yields_done (value : Value) : (Reader.done value).Yields [] (some value) :=
  .found (Reads.done value)

/-- A reader that rejects finds nothing, whatever the bytes are. -/
theorem yields_reject (misfit : Misfit) (bytes : List UInt8) :
    (Reader.reject misfit : Reader Value).Yields bytes none :=
  .rejected (handles_reject misfit bytes _)

/-- The first reader takes its bytes, and the second one decides the outcome. -/
theorem Reads.andThen_yields {first : Reader First} {next : First → Reader Second}
    {left right : List UInt8} {value : First} {outcome : Option Second}
    (takes : first.Reads left value) (yields : (next value).Yields right outcome) :
    (first.andThen next).Yields (left ++ right) outcome := by
  cases yields with
  | found takesRight => exact .found (takes.andThen takesRight)
  | rejected rejects => exact .rejected (takes.andThen_handles rejects)

/-- The bytes of the second reader do not matter when the first one rejects its own. -/
theorem Yields.andThen {first : Reader First} {next : First → Reader Second}
    {left right : List UInt8} {outcome : Option First} {result : First → Option Second}
    (yields : first.Yields left outcome)
    (continues : ∀ value, (next value).Yields right (result value)) :
    (first.andThen next).Yields (left ++ right) (outcome.bind result) := by
  cases yields with
  | @found value takes => exact takes.andThen_yields (continues value)
  | rejected rejects => exact .rejected (rejects.andThen fun _ never => never.elim)

theorem Yields.map {reader : Reader First} {bytes : List UInt8} {outcome : Option First}
    (yields : reader.Yields bytes outcome) (function : First → Second) :
    (reader.map function).Yields bytes (outcome.map function) := by
  cases yields with
  | found takes => exact .found (takes.map function)
  | rejected rejects => exact .rejected (rejects.map fun _ never => never)

/-- A reader that has only looked ahead leaves all the bytes to the next one. -/
theorem Reads.peek_yields {first : Reader First} {next : First → Reader Second}
    {left right : List UInt8} {value : First} {outcome : Option Second}
    (takes : first.Reads left value) (yields : (next value).Yields (left ++ right) outcome) :
    ((Reader.peek first).andThen next).Yields (left ++ right) outcome := by
  cases yields with
  | rejected rejects => exact .rejected (takes.peek_handles rejects)
  | found takesAll =>
      apply Yields.found
      intro offset rest
      have reached := takes offset (right ++ rest)
      rw [← List.append_assoc] at reached
      simp only [Reader.andThen, Reader.peek, reached]
      exact takesAll offset rest

/-- A turn of a loop is followed by the others unless it rejects its bytes. -/
theorem Yields.loop {turn : State → Reader (Turn State Value)} {state : State}
    {left right : List UInt8} {outcome : Option First} {next : First → State}
    {result : First → Option Value}
    (yields : (turn state).Yields left (outcome.map fun found => .again (next found)))
    (nonempty : left ≠ [])
    (continues : ∀ found, Yields (Reader.loop turn (next found)) right (result found)) :
    Yields (Reader.loop turn state) (left ++ right) (outcome.bind result) := by
  cases outcome with
  | none =>
      cases yields with
      | rejected rejects =>
          have never : (turn state).Handles left (Turn.Goes (fun _ => False) fun _ => False) :=
            rejects.imp fun _ => False.elim
          exact .rejected (never.loop_again nonempty fun _ => False.elim)
  | some found =>
      cases yields with
      | found takes =>
          have continued := continues found
          rw [Option.bind_some]
          generalize result found = outcome at continued
          cases continued with
          | found takesRight => exact .found (takes.loop_next nonempty takesRight)
          | rejected rejects => exact .rejected (takes.loop_again nonempty rejects)

/-- All outcomes are there when the first one is and the others are. -/
theorem mapM_cons (outcome : Source → Option Value) (source : Source) (sources : List Source) :
    (source :: sources).mapM outcome =
      (outcome source).bind fun value => (sources.mapM outcome).map (value :: ·) := by
  simp only [List.mapM_cons, Option.map_eq_bind]
  rfl

/-- Readers one after the other find what each of them finds. -/
theorem yields_times {item : Reader Value} {outcome : Source → Option Value}
    {sources : List Source} {parts : List (List UInt8)}
    (yield : List.Forall₂ (fun source part => item.Yields part (outcome source)) sources parts) :
    (Reader.times item sources.length).Yields parts.flatten (sources.mapM outcome) := by
  induction yield with
  | nil => exact yields_done []
  | @cons source part sources parts yields _ inductionHypothesis =>
      rw [mapM_cons]
      exact yields.andThen fun value => inductionHypothesis.map (value :: ·)

end Reader

open Reader

variable {Source Value : Type} {written : Source → List UInt8 → Prop}

/-- The sources of a list are written in parts up to their number or up to a break. -/
inductive Listed (written : Source → List UInt8 → Prop) (sources : List Source) :
    Option Nat → List UInt8 → Prop where
  | counted {parts : List (List UInt8)} (areParts : List.Forall₂ written sources parts) :
      Listed written sources (some sources.length) parts.flatten
  | untilBreak {parts : List (List UInt8)} (areParts : List.Forall₂ written sources parts) :
      Listed written sources none (parts.flatten ++ [breakByte])

/-- An array is written with its length in front, in a header of any width, or with an open header
and a break behind it. -/
inductive WrittenArray (written : Source → List UInt8 → Prop) (sources : List Source) :
    List UInt8 → Prop where
  | counted {head : List UInt8} {parts : List (List UInt8)}
      (isHead : Head 4 sources.length head) (areParts : List.Forall₂ written sources parts) :
      WrittenArray written sources (head ++ parts.flatten)
  | untilBreak {parts : List (List UInt8)} (areParts : List.Forall₂ written sources parts) :
      WrittenArray written sources (openHead 4 :: (parts.flatten ++ [breakByte]))

/-- Behind the header of an array its sources are listed. -/
theorem WrittenArray.listed {sources : List Source} {bytes : List UInt8}
    (array : WrittenArray written sources bytes) :
    ∃ head length content, bytes = head ++ content ∧ header.Reads head (.array length) ∧
      Listed written sources length content := by
  cases array with
  | counted isHead areParts =>
      obtain ⟨information, reads⟩ := isHead.reads (by decide)
      exact ⟨_, _, _, rfl, reads _ rfl, .counted areParts⟩
  | untilBreak areParts =>
      exact ⟨[openHead 4], none, _, rfl, openHead_reads (by decide) rfl, .untilBreak areParts⟩

/-- A written array does not begin with a break. -/
theorem WrittenArray.begins {sources : List Source} {bytes : List UInt8}
    (array : WrittenArray written sources bytes) : Begins bytes := by
  obtain ⟨head, length, content, rfl, reads, -⟩ := array.listed
  exact ⟨head, content, _, rfl, reads, by simp⟩

/-- What holds of everything that is written holds of what is written in an array. -/
theorem WrittenArray.forall_mem {sources : List Source} {bytes : List UInt8} {good : Source → Prop}
    (array : WrittenArray written sources bytes)
    (areGood : ∀ source part, written source part → good source) :
    ∀ source ∈ sources, good source := by
  have areGoodParts {parts : List (List UInt8)} (areParts : List.Forall₂ written sources parts) :
      ∀ source ∈ sources, good source := by
    have both := areParts.imp fun source part isPart =>
      And.intro (areGood source part isPart) isPart
    exact ((List.forall₂_and_left ..).mp both).1
  cases array with
  | counted isHead areParts => exact areGoodParts areParts
  | untilBreak areParts => exact areGoodParts areParts

/-- A turn of an open array takes an item or the break. -/
def openTurn (item : Reader Value) (values : List Value) :
    Reader (Turn (List Value) (List Value)) :=
  (Reader.peek header).andThen fun next =>
  match next with
  | .stop => header.map fun _ => .finished values.reverse
  | _ => item.map fun value => .again (value :: values)

/-- A turn finds one more item in an open array. -/
theorem openTurn_item {item : Reader Value} {part : List UInt8} {outcome : Option Value}
    (begins : Begins part) (yields : item.Yields part outcome) (values : List Value) :
    (openTurn item values).Yields part (outcome.map fun value => .again (value :: values)) := by
  obtain ⟨head, rest, found, rfl, reads, notStop⟩ := begins
  apply reads.peek_yields
  split
  · exact absurd rfl notStop
  · exact yields.map _

/-- A break finishes an open array. -/
theorem openTurn_break (item : Reader Value) (values : List Value) :
    (openTurn item values).Reads [breakByte] (.finished values.reverse) := by
  have ends : (openTurn item values).Yields ([breakByte] ++ []) (some (.finished values.reverse)) :=
    breakByte_reads.peek_yields (.found (breakByte_reads.map _))
  cases ends with
  | found takes => exact takes

/-- The items of an open array stand behind those that were found before. -/
theorem yields_openTurns {item : Reader Value} {outcome : Source → Option Value}
    (begins : ∀ source part, written source part → Begins part)
    (yields : ∀ source part, written source part → item.Yields part (outcome source))
    {sources : List Source} {parts : List (List UInt8)}
    (areParts : List.Forall₂ written sources parts) (values : List Value) :
    Yields (Reader.loop (openTurn item) values) (parts.flatten ++ [breakByte])
      ((sources.mapM outcome).map (values.reverse ++ ·)) := by
  induction areParts generalizing values with
  | nil =>
      rw [List.mapM_nil, Option.pure_def, Option.map_some, List.append_nil]
      exact .found (openTurn_break item values).loop
  | @cons source part sources parts isPart _ inductionHypothesis =>
      have isBegun := begins source part isPart
      have turn := openTurn_item isBegun (yields source part isPart) values
      have turns := turn.loop isBegun.ne_nil fun value => inductionHypothesis (value :: values)
      rw [mapM_cons, List.flatten_cons, List.append_assoc, Option.map_bind]
      simpa [Function.comp_def] using turns

/-- A list of items is found when every one of them is, however its end is marked. -/
theorem items_yields {item : Reader Value} {outcome : Source → Option Value}
    (begins : ∀ source part, written source part → Begins part)
    (yields : ∀ source part, written source part → item.Yields part (outcome source))
    {sources : List Source} {length : Option Nat} {content : List UInt8}
    (listed : Listed written sources length content) :
    (items item length).Yields content (sources.mapM outcome) := by
  cases listed with
  | counted areParts => exact yields_times (areParts.imp yields)
  | untilBreak areParts =>
      have turns := yields_openTurns begins yields areParts []
      simp only [List.reverse_nil, List.nil_append, Option.map_id'] at turns
      exact turns

end ContactPlan.Cbor
