import ContactPlan.Cbor.Reader
import ContactPlan.Text.Utf8

namespace ContactPlan.Cbor

/-- A consumer sees every piece of a segment.
The room is the greatest length of the next piece, and it is never empty. -/
structure Consumer (State : Type) where
  room : State → Nat
  take : Nat → State → List UInt8 → Except Fault State
  finish : Nat → State → Except Fault State

def Reader.lift {Value : Type} (result : Except Fault Value) : Reader Value := fun cursor =>
  match result with
  | .ok value => .ok (value, cursor)
  | .error fault => .error fault

/-- The pieces of a segment add up to its length. -/
def pieces {State : Type} (consumer : Consumer State) (start : Nat) (state : State)
    (length : Nat) : Reader State :=
  if length = 0 then Reader.lift (consumer.finish start state)
  else
    let size := min (max 1 (consumer.room state)) length
    (Reader.take size).andThen fun piece =>
    (Reader.lift (consumer.take start state piece)).andThen fun state =>
    pieces consumer start state (length - size)
termination_by length
decreasing_by omega

/-- A string has one kind, which its segments share. -/
inductive StringKind where
  | bytes
  | text

/-- The header opens a string of the kind, of known or of open length. -/
def StringKind.length? : StringKind → Header → Option (Option Nat)
  | .bytes, .bytes length => some length
  | .text, .text length => some length
  | _, _ => none

/-- Strings of open length may hold further ones, and a break closes the innermost. -/
def segments {State : Type} (kind : StringKind) (consumer : Consumer State) (state : State) :
    Reader State :=
  Reader.loop (fun (pending : Nat × State) =>
    Reader.offset.andThen fun start =>
    header.andThen fun next =>
    match next with
    | .stop =>
        if pending.1 ≤ 1 then Reader.done (.finished pending.2)
        else Reader.done (.again (pending.1 - 1, pending.2))
    | next =>
        match kind.length? next with
        | some (some length) =>
            (pieces consumer start pending.2 length).map fun state => .again (pending.1, state)
        | some none => Reader.done (.again (pending.1 + 1, pending.2))
        | none => Reader.fail (.malformed start)) (1, state)

/-- The string starts behind its header, and the start is the offset that faults report. -/
def string {State : Type} (kind : StringKind) (consumer : Consumer State) (start : Nat)
    (state : State) : Option Nat → Reader State
  | some length => pieces consumer start state length
  | none => segments kind consumer state

/-- Large strings are read in pieces of 4096 bytes. -/
def pieceSize : Nat := 4096

/-- A consumer that keeps all pieces together. -/
def collector : Consumer (List UInt8) where
  room _ := pieceSize
  take _ state piece := .ok (state ++ piece)
  finish _ state := .ok state

/-- A consumer that forgets what it has seen. -/
def ignorer : Consumer Unit where
  room _ := pieceSize
  take _ _ _ := .ok ()
  finish _ _ := .ok ()

/-- The state is the beginning of a character that the next piece has to complete. -/
def textChecker : Consumer (List UInt8) where
  room state := pieceSize - state.length
  take start state piece :=
    let rest := Utf8.invalidRest (state ++ piece)
    if 3 < rest.length then .error (.malformed start) else .ok rest
  finish start state := if state = [] then .ok [] else .error (.malformed start)

/-- Leading zeros do not count among the sixteen bytes that a big number may have. -/
def significant : List UInt8 → List UInt8 → Except Fault (List UInt8)
  | digits, [] => .ok digits
  | digits, byte :: rest =>
      if 16 ≤ digits.length then .error (.misfit .largeBigNumber)
      else if digits = [] ∧ byte = 0 then significant digits rest
      else significant (digits ++ [byte]) rest

/-- A big number is read in pieces of sixteen bytes. -/
def bigNumberBuilder : Consumer (List UInt8) where
  room _ := 16
  take _ := significant
  finish _ state := .ok state

end ContactPlan.Cbor
