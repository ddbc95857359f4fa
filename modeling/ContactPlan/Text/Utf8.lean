/-
This file finds the longest valid beginning of a text in UTF-8.
-/

namespace ContactPlan.Utf8

def isTail (byte : UInt8) : Bool := 0x80 ≤ byte && byte ≤ 0xBF

/-- The least and the greatest second byte of a character depend on its first. -/
def secondRange (first : UInt8) : UInt8 × UInt8 :=
  if first = 0xE0 then (0xA0, 0xBF)
  else if first = 0xED then (0x80, 0x9F)
  else if first = 0xF0 then (0x90, 0xBF)
  else if first = 0xF4 then (0x80, 0x8F)
  else (0x80, 0xBF)

/-- The first byte tells how many bytes its character has. -/
def width? (first : UInt8) : Option Nat :=
  if first ≤ 0x7F then some 1
  else if 0xC2 ≤ first && first ≤ 0xDF then some 2
  else if 0xE0 ≤ first && first ≤ 0xEF then some 3
  else if 0xF0 ≤ first && first ≤ 0xF4 then some 4
  else none

def isCharacter : List UInt8 → Bool
  | [_] => true
  | first :: second :: rest =>
      (secondRange first).1 ≤ second && second ≤ (secondRange first).2 && rest.all isTail
  | [] => false

/-- The width of a valid character at the front. -/
def frontWidth? (bytes : List UInt8) : Option Nat := do
  let first ← bytes.head?
  let width ← width? first
  if (bytes.take width).length = width ∧ isCharacter (bytes.take width) then some width else none

/-- A character takes a byte at least. -/
theorem frontWidth?_pos {bytes : List UInt8} {width : Nat}
    (found : frontWidth? bytes = some width) : 0 < width ∧ bytes ≠ [] := by
  cases bytes with
  | nil => simp [frontWidth?] at found
  | cons first rest =>
      simp only [frontWidth?, List.head?_cons, Option.bind_eq_bind, Option.bind_some] at found
      cases widthEqual : width? first with
      | none => simp [widthEqual] at found
      | some width' =>
          simp only [widthEqual, Option.bind_some, Option.ite_none_right_eq_some,
            Option.some.injEq] at found
          refine ⟨?_, by simp⟩
          rw [← found.2]
          unfold width? at widthEqual
          repeat' split at widthEqual
          all_goals simp_all <;> omega

/-- The part behind the longest valid beginning. -/
def invalidRest (bytes : List UInt8) : List UInt8 :=
  match _found : frontWidth? bytes with
  | none => bytes
  | some width => invalidRest (bytes.drop width)
termination_by bytes.length
decreasing_by
  have positive := frontWidth?_pos _found
  have nonempty := List.length_pos_iff.mpr positive.2
  simp only [List.length_drop]
  omega

end ContactPlan.Utf8
